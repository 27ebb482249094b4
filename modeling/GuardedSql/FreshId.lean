import GuardedSql.Digest.Md5

/-!
# Unique identifiers

Short identifiers made of a seed. A candidate is a beginning of the digest of the seed, from the second
attempt on of the seed with the number of the attempt behind it. The first candidate that is not taken is
the answer, if one of the attempts finds it.
-/

namespace GuardedSql.FreshId

/-- The number of digits of a digest, which no identifier exceeds. -/
def maxLength : Nat := 32

structure Config where
  length : Nat := 10
  attempts : Nat := 15
deriving DecidableEq, Repr

/-- The text that is hashed for an attempt. -/
def salted (seed : String) (attempt : Nat) : String :=
  if attempt = 0 then seed else seed ++ toString attempt

/-- The beginning of the digest for an attempt, of MD5 or of another hash. -/
def candidate (seed : String) (attempt length : Nat) (hash : String → List Char := Md5.hex) : String :=
  String.ofList ((hash (salted seed attempt)).take (min length maxLength))

variable {m : Type → Type} [Monad m]

/-- The first candidate that is not taken. Candidates after it are neither made nor looked at, so the number
of attempts may be as large as one likes. -/
def find? (taken : String → m Bool) (seed : String) (length attempts : Nat)
    (hash : String → List Char := Md5.hex) : m (Option String) := do
  for attempt in [:attempts] do
    let id := candidate seed attempt length hash
    if !(← taken id) then return some id
  return none

/-- The first candidate that is not taken, of `attempts` from `attempt` on; each one that is taken is
reported. -/
def searchFrom (taken : String → m Bool) (report : Nat → String → m Unit) (seed : String)
    (length attempt attempts : Nat) (hash : String → List Char := Md5.hex) : m (Option String) :=
  match attempts with
  | 0 => return none
  | attempts + 1 => do
    let id := candidate seed attempt length hash
    if ← taken id then
      report attempt id
      searchFrom taken report seed length (attempt + 1) attempts hash
    else return some id

def search (taken : String → m Bool) (report : Nat → String → m Unit) (seed : String) (length attempts : Nat)
    (hash : String → List Char := Md5.hex) : m (Option String) :=
  searchFrom taken report seed length 0 attempts hash

end GuardedSql.FreshId
