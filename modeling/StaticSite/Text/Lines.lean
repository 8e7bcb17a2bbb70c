/-!
# Lines of text

A text built from its lines. Every line has its end, the last one too.
-/

namespace StaticSite.Text

/-- Lines with a line end after each. -/
def unlines (lines : List String) : String :=
  String.join (lines.map fun line => line.push '\n')

end StaticSite.Text
