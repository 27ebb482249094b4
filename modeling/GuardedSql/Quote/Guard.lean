import GuardedSql.Error

/-!
# The guard on unescaped text

Text that goes into a statement without escaping is looked through for single quotes that do not come
right after a backslash. An identifier may hold none of them, raw SQL an even number: it may hold whole
literals, as in `s = 'open'`, but must not leave one open.
-/

namespace GuardedSql.Guard

/-- The number of single quotes not right after a backslash, in a text before which a backslash stands
if `escaped`. -/
def countQuotes (escaped : Bool) : List Char → Nat
  | [] => 0
  | c :: cs => (if c = '\'' ∧ escaped = false then 1 else 0) + countQuotes (c = '\\') cs

/-- The single quotes of a fragment that do not come right after a backslash. -/
def quotes (fragment : String) : Nat :=
  countQuotes false fragment.toList

def hasQuote (fragment : String) : Bool :=
  quotes fragment ≠ 0

/-- Whether the fragment has an odd number of them. -/
def isUnbalanced (fragment : String) : Bool :=
  quotes fragment % 2 = 1

/-- Refuses raw SQL that would leave a literal open. -/
def checkRaw (fragment : String) : Except Error Unit :=
  if isUnbalanced fragment then .error (.suspicious fragment) else .ok ()

end GuardedSql.Guard
