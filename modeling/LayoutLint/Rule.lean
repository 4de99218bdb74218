/-! The rule under whose name all checks report. -/
namespace LayoutLint.Rule

def name : String := "prettiest"

end LayoutLint.Rule
