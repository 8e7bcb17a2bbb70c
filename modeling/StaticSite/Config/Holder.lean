import StaticSite.Project

/-!
# The holder of the project's identity

A holder is empty until it is initialized, and it is initialized once. Reading an empty holder is
an error and never a default. Replacing the value between renders is always possible.
-/

namespace StaticSite

/-- Misuse of a holder. -/
inductive HolderError
  | uninitialized
  | alreadyInitialized
deriving DecidableEq, Repr

/-- The wording of a misuse. -/
def HolderError.message : HolderError → String
  | uninitialized => "project configuration read before initialization"
  | alreadyInitialized => "project configuration is already initialized"

/-- Holds the project's identity once it is known. -/
structure ProjectHolder where
  project? : Option Project := none
deriving DecidableEq, Repr

namespace ProjectHolder

/-- A holder without a value. -/
def empty : ProjectHolder := {}

/-- A holder that is initialized from the start. -/
def holding (p : Project) : ProjectHolder := ⟨some p⟩

/-- Give an empty holder its value. -/
def set? (h : ProjectHolder) (p : Project) : Except HolderError ProjectHolder :=
  match h.project? with
  | none => .ok ⟨some p⟩
  | some _ => .error .alreadyInitialized

/-- The value, which has to be there. -/
def get (h : ProjectHolder) : Except HolderError Project :=
  match h.project? with
  | some p => .ok p
  | none => .error .uninitialized

/-- Put a value in the place of whatever was there. -/
def replace (_ : ProjectHolder) (p : Project) : ProjectHolder := ⟨some p⟩

/-- Whether the holder has a value. -/
def isInitialized (h : ProjectHolder) : Bool := h.project?.isSome

/-! ### Calls -/

/-- What can be asked of a holder. -/
inductive Call
  | init (p : Project)
  | get
  | isInitialized
  | replace (p : Project)
deriving DecidableEq, Repr

/-- What a call is answered with. -/
inductive Answer
  | done
  | value (p : Project)
  | flag (b : Bool)
  | refused (e : HolderError)
deriving DecidableEq, Repr

/-- One call: the holder afterwards, and the answer. A refused call leaves the holder as it was. -/
def call (h : ProjectHolder) : Call → ProjectHolder × Answer
  | .init p =>
    match h.set? p with
    | .ok h' => (h', .done)
    | .error e => (h, .refused e)
  | .get =>
    match h.get with
    | .ok p => (h, .value p)
    | .error e => (h, .refused e)
  | .isInitialized => (h, .flag h.isInitialized)
  | .replace p => (h.replace p, .done)

end ProjectHolder

end StaticSite
