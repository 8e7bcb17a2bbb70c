/-!
# Numbers in decimal digits

Whole numbers as messages and reports show them: the fewest digits, and a minus sign before the
negative ones.
-/

namespace StaticSite.Text

/-- A number in decimal digits. -/
def decimal (n : Nat) : String :=
  String.ofList (Nat.toDigits 10 n)

/-- A number in decimal digits behind its sign, which only a negative number has. -/
def signedDecimal (n : Int) : String :=
  String.join [if n < 0 then "-" else "", decimal n.natAbs]

end StaticSite.Text
