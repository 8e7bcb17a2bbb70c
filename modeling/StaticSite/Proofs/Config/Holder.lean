import StaticSite.Config.Holder

/-!
# What a holder remembers

A holder is created with a value or without one, and then any calls follow. Two calls can put a
value into it, and they differ in what they do to a value that is there: an initialization leaves
it, a replacement takes its place.

## Why the order of the two kinds does not count

A replacement wins over every initialization, also over one that comes later, because the later one
finds a value and is refused. So what a holder has can be told from the calls without going through
the states in between: the last replacement if there was one, and otherwise the value it was created
with or the first initialization (`ProjectHolder.settled`). That the step by step account comes to
the same is `ProjectHolder.project?_after`.

## Main results

* `ProjectHolder.project?_call` — what one call does to the value
* `ProjectHolder.project?_after` — what a holder has after any calls
* `ProjectHolder.set_once` — what every call is answered with, and that a value is never lost
-/

namespace StaticSite

namespace ProjectHolder

/-- The value that an initialization brings. -/
def Call.initial? : Call → Option Project
  | .init p => some p
  | _ => none

/-- The value that a replacement brings. -/
def Call.replacement? : Call → Option Project
  | .replace p => some p
  | _ => none

/-- The call brings a value, whether or not it is taken. -/
def Call.Brings (c : Call) : Prop := (∃ p, c = .init p) ∨ ∃ p, c = .replace p

/-- A holder that is created with a value, or without one. -/
def created : Option Project → ProjectHolder
  | some p => holding p
  | none => empty

/-- What a holder is after calls. -/
def after (h : ProjectHolder) (calls : List Call) : ProjectHolder :=
  calls.foldl (fun h c => (h.call c).1) h

/-- The first initialization. -/
def firstInitial (calls : List Call) : Option Project :=
  calls.findSome? Call.initial?

/-- The last replacement. -/
def lastReplacement (calls : List Call) : Option Project :=
  calls.reverse.findSome? Call.replacement?

/-- The value that calls leave behind: the last replacement, or else the value that the holder was
created with, or else the first initialization. -/
def settled (given : Option Project) (calls : List Call) : Option Project :=
  (lastReplacement calls).or (given.or (firstInitial calls))

theorem project?_created (given : Option Project) : (created given).project? = given := by
  cases given <;> rfl

/-! ### One call -/

/-- **One call**: a replacement is taken, an initialization only when nothing is there. -/
theorem project?_call (h : ProjectHolder) (c : Call) :
    (h.call c).1.project? = c.replacement?.or (h.project?.or c.initial?) := by
  obtain ⟨project?⟩ := h
  cases c with
  | init p => cases project? <;> rfl
  | get => cases project? <;> rfl
  | isInitialized => cases project? <;> rfl
  | replace p => rfl

theorem call_init (h : ProjectHolder) (p : Project) :
    h.call (.init p) =
      if h.project?.isSome then (h, .refused .alreadyInitialized) else (holding p, .done) := by
  obtain ⟨project?⟩ := h
  cases project? <;> rfl

theorem call_get (h : ProjectHolder) :
    h.call .get = (h, match h.project? with
      | some p => .value p
      | none => .refused .uninitialized) := by
  obtain ⟨project?⟩ := h
  cases project? <;> rfl

theorem call_isInitialized (h : ProjectHolder) :
    h.call .isInitialized = (h, .flag h.project?.isSome) := rfl

/-! ### Any calls -/

theorem lastReplacement_cons (c : Call) (calls : List Call) :
    lastReplacement (c :: calls) = (lastReplacement calls).or c.replacement? := by
  rw [lastReplacement, List.reverse_cons, List.findSome?_append, List.findSome?_singleton]
  rfl

theorem firstInitial_cons (c : Call) (calls : List Call) :
    firstInitial (c :: calls) = c.initial?.or (firstInitial calls) := by
  rw [firstInitial, List.findSome?_cons]
  cases c.initial? <;> rfl

/-- **What a holder has after any calls.** -/
theorem project?_after (h : ProjectHolder) (calls : List Call) :
    (h.after calls).project? = settled h.project? calls := by
  induction calls generalizing h with
  | nil => simp [after, settled, lastReplacement, firstInitial]
  | cons c rest ih =>
    have hstep : h.after (c :: rest) = (h.call c).1.after rest := rfl
    rw [hstep, ih, project?_call, settled, settled, lastReplacement_cons, firstInitial_cons]
    simp only [Option.or_assoc]

/-! ### When there is a value -/

theorem isSome_initial?_or_replacement? (c : Call) :
    (c.initial?.isSome ∨ c.replacement?.isSome) ↔ c.Brings := by
  cases c <;> simp [Call.initial?, Call.replacement?, Call.Brings]

/-- There is a value as soon as the holder was created with one or a call has brought one. -/
theorem isSome_settled_iff (given : Option Project) (calls : List Call) :
    (settled given calls).isSome ↔ given.isSome ∨ ∃ c ∈ calls, c.Brings := by
  have hreplaced : (lastReplacement calls).isSome ↔ ∃ c ∈ calls, c.replacement?.isSome := by
    simp [lastReplacement, List.findSome?_isSome_iff]
  have hinitial : (firstInitial calls).isSome ↔ ∃ c ∈ calls, c.initial?.isSome := by
    simp [firstInitial, List.findSome?_isSome_iff]
  rw [settled, Option.isSome_or, Option.isSome_or, Bool.or_eq_true, Bool.or_eq_true, hreplaced,
    hinitial]
  simp only [← isSome_initial?_or_replacement?]
  constructor
  · rintro (⟨c, hc, hsome⟩ | hgiven | ⟨c, hc, hsome⟩)
    · exact .inr ⟨c, hc, .inr hsome⟩
    · exact .inl hgiven
    · exact .inr ⟨c, hc, .inl hsome⟩
  · rintro (hgiven | ⟨c, hc, hsome | hsome⟩)
    · exact .inr (.inl hgiven)
    · exact .inr (.inr ⟨c, hc, hsome⟩)
    · exact .inl ⟨c, hc, hsome⟩

/-! ### Answers -/

/-- The answer to a call that comes after others. -/
def answerAfter (given : Option Project) (calls : List Call) (c : Call) : Answer :=
  (((created given).after calls).call c).2

/-- No value has been there so far. -/
def NothingGiven (given : Option Project) (calls : List Call) : Prop :=
  given = none ∧ ∀ c ∈ calls, ¬ c.Brings

theorem settled_eq_none_iff (given : Option Project) (calls : List Call) :
    settled given calls = none ↔ NothingGiven given calls := by
  rw [← Option.not_isSome_iff_eq_none, isSome_settled_iff, NothingGiven, not_or,
    Option.not_isSome_iff_eq_none]
  simp only [not_exists, not_and]

theorem project?_after_created (given : Option Project) (calls : List Call) :
    ((created given).after calls).project? = settled given calls := by
  rw [project?_after, project?_created]

theorem answerAfter_get (given : Option Project) (calls : List Call) :
    answerAfter given calls .get =
      match settled given calls with
      | some p => .value p
      | none => .refused .uninitialized := by
  rw [answerAfter, call_get, project?_after_created]

theorem answerAfter_isInitialized (given : Option Project) (calls : List Call) :
    answerAfter given calls .isInitialized = .flag (settled given calls).isSome := by
  rw [answerAfter, call_isInitialized, project?_after_created]

/-- **A holder is set once and never forgets.** After any calls it is read as `settled` says, and
reading fails only as long as nothing has been given to it. An initialization is taken exactly then,
and otherwise it is refused and changes nothing. Asking whether there is a value tells whether
reading succeeds, and once there is a value there is one after any further calls. -/
theorem set_once (given : Option Project) (calls : List Call) :
    (∀ p, answerAfter given calls .get = .value p ↔ settled given calls = some p) ∧
    (answerAfter given calls .get = .refused .uninitialized ↔ NothingGiven given calls) ∧
    (∀ p, (answerAfter given calls (.init p) = .done ↔ NothingGiven given calls) ∧
      (answerAfter given calls (.init p) ≠ .done →
        ((created given).after calls).call (.init p) =
          ((created given).after calls, .refused .alreadyInitialized))) ∧
    (answerAfter given calls .isInitialized = .flag true ↔
      ∃ p, answerAfter given calls .get = .value p) ∧
    (answerAfter given calls .isInitialized = .flag true →
      ∀ more, answerAfter given (calls ++ more) .isInitialized = .flag true) := by
  have hnone := settled_eq_none_iff given calls
  refine ⟨fun p => ?_, ?_, fun p => ?_, ?_, ?_⟩
  · rw [answerAfter_get]
    cases settled given calls <;> simp
  · rw [answerAfter_get, ← hnone]
    cases settled given calls <;> simp
  · rw [answerAfter, call_init, project?_after_created, ← hnone]
    cases settled given calls <;> simp
  · rw [answerAfter_isInitialized, answerAfter_get]
    cases settled given calls <;> simp
  · intro hflag more
    rw [answerAfter_isInitialized, Answer.flag.injEq] at hflag ⊢
    rw [isSome_settled_iff] at hflag ⊢
    refine hflag.imp id fun hbrings => ?_
    obtain ⟨c, hc, hbring⟩ := hbrings
    exact ⟨c, List.mem_append_left more hc, hbring⟩

/-- An initialization behind a replacement is refused, and the replacement stays. -/
example (p q : Project) : ((created none).after [.replace p, .init q]).project? = some p := rfl

end ProjectHolder

end StaticSite
