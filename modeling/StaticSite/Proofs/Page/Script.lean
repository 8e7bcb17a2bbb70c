import StaticSite.Page.Script
import StaticSite.Proofs.LinkErrors

/-!
# How a script fails

Only the links of a script can fail, and the first one that does ends it. So what a script fails
with can be read off its items without rendering anything: `ScriptItem.fault?` is the error of one
item, and a script has the error of its first faulty item.

## Two kinds of faults

A link below the project host or to an archive fails for its own argument, wherever it stands. A
reference to a section fails for what surrounds the script. In a script whose arguments are all
right (`ScriptItem.Fit`) the references are all that is left to look at, in their order.

## Main results

* `Script.render_eq_error_iff`, `Script.exists_render_iff` — a script fails at its first fault
* `Script.exists_render_iff_of_fit`, `Script.render_of_first_missing` — in a fit script, this is the
  first reference that is not admitted
-/

namespace StaticSite

/-- What fails with known errors succeeds when there is none of them. -/
theorem exists_ok_iff_of_error_iff {α : Type} {x : Except LinkError α} {fault? : Option LinkError}
    (h : ∀ e, x = .error e ↔ fault? = some e) : (∃ a, x = .ok a) ↔ fault? = none := by
  rw [Option.eq_none_iff_forall_ne_some]
  simp only [ne_eq, ← h]
  cases x <;> simp

theorem map_eq_error_iff {α β : Type} {x : Except LinkError α} {f : α → β} {e : LinkError} :
    x.map f = .error e ↔ x = .error e := by
  cases x <;> simp [Except.map]

/-- The error of a reference to the section, if there is one. -/
def Links.missing? (l : Links) (id : String) : Option LinkError :=
  if l.admits id then none else some (.unknownSection id)

namespace ScriptItem

variable {l : Links} {item : ScriptItem} {e : LinkError}

/-- The error that the item's link fails with. -/
def fault? (l : Links) : ScriptItem → Option LinkError
  | external path _ =>
    if Text.dropLeadingSlashes path = "" then some (.invalidPath path) else none
  | internal id _ => l.missing? id
  | archive suffix _ => if holdsSeparator suffix then some (.invalidSuffix suffix) else none
  | _ => none

/-- No link can fail for the item's own argument. -/
def Fit : ScriptItem → Bool
  | external path _ => Text.dropLeadingSlashes path != ""
  | archive suffix _ => !holdsSeparator suffix
  | _ => true

/-- The section that the item refers to. -/
def reference? : ScriptItem → Option String
  | internal id _ => some id
  | _ => none

theorem render_eq_error_iff : item.render l = .error e ↔ item.fault? l = some e := by
  cases item with
  | external path label? =>
    rw [render, map_eq_error_iff, Links.external_eq_error_iff,
      ← Text.dropLeadingSlashes_eq_empty_iff, fault?, Option.ite_none_right_eq_some,
      Option.some.injEq, @eq_comm _ e]
  | internal id label? =>
    rw [render, map_eq_error_iff, Links.internal_eq_error_iff, fault?, Links.missing?]
    cases l.admits id <;> simp [eq_comm]
  | archive suffix label? =>
    rw [render, map_eq_error_iff, Links.archive_eq_error_iff, fault?,
      Option.ite_none_right_eq_some, Option.some.injEq, @eq_comm _ e]
  | _ => simp [render, fault?]

theorem exists_render_iff : (∃ f, item.render l = .ok f) ↔ item.fault? l = none :=
  exists_ok_iff_of_error_iff fun _ => render_eq_error_iff

theorem exists_external_of_fit {path : String} {label? : Option String}
    (h : (external path label?).Fit) (l : Links) : ∃ a, l.external path = .ok a := by
  rw [Fit, bne_iff_ne, ne_eq, Text.dropLeadingSlashes_eq_empty_iff] at h
  cases hlink : l.external path with
  | ok a => exact ⟨a, rfl⟩
  | error e => exact absurd (Links.external_eq_error_iff.1 hlink).1 h

theorem exists_archive_of_fit {suffix : String} {label? : Option String}
    (h : (archive suffix label?).Fit) (l : Links) : ∃ a, l.archive suffix = .ok a := by
  rw [Fit, Bool.not_eq_true', ← Bool.not_eq_true] at h
  cases hlink : l.archive suffix with
  | ok a => exact ⟨a, rfl⟩
  | error e => exact absurd (Links.archive_eq_error_iff.1 hlink).1 h

/-- The fault of a fit item is that of its reference. -/
theorem fault?_of_fit (h : item.Fit) (l : Links) :
    item.fault? l = item.reference?.bind l.missing? := by
  cases item with
  | external path label? =>
    rw [Fit, bne_iff_ne] at h
    exact if_neg h
  | archive suffix label? =>
    rw [Fit, Bool.not_eq_true'] at h
    rw [fault?, h]
    rfl
  | _ => rfl

end ScriptItem

namespace Script

variable {l : Links} {s : Script} {e : LinkError}

/-- A script is rendered as its first item and then the others. -/
theorem render_cons_eq_ok_iff {item : ScriptItem} {f : Fragment} :
    Script.render l (item :: s) = .ok f ↔
      ∃ first others, item.render l = .ok first ∧ Script.render l s = .ok others ∧
        f = first ++ others := by
  rw [render]
  cases item.render l with
  | error e => simp
  | ok first => cases Script.render l s <;> simp [eq_comm]

/-- **A script fails at its first fault.** -/
theorem render_eq_error_iff :
    Script.render l s = .error e ↔ s.findSome? (ScriptItem.fault? l) = some e := by
  induction s with
  | nil => simp [render]
  | cons item rest ih =>
    rw [render, List.findSome?_cons]
    cases h : item.render l with
    | error e' =>
      rw [ScriptItem.render_eq_error_iff.1 h]
      simp
    | ok f =>
      rw [ScriptItem.exists_render_iff.1 ⟨f, h⟩, ← ih]
      cases Script.render l rest <;> simp

/-- A script without faults is rendered. -/
theorem exists_render_iff :
    (∃ f, Script.render l s = .ok f) ↔ s.findSome? (ScriptItem.fault? l) = none :=
  exists_ok_iff_of_error_iff fun _ => render_eq_error_iff

/-- **In a fit script the references are all that can fail**, in their order. -/
theorem fault?_of_fit (h : ∀ item ∈ s, item.Fit) (l : Links) :
    s.findSome? (ScriptItem.fault? l) =
      (s.filterMap ScriptItem.reference?).findSome? l.missing? := by
  induction s with
  | nil => rfl
  | cons item rest ih =>
    obtain ⟨hitem, hrest⟩ := List.forall_mem_cons.1 h
    rw [List.findSome?_cons, ScriptItem.fault?_of_fit hitem, ih hrest, List.filterMap_cons]
    cases item.reference? with
    | none => rfl
    | some id => rw [List.findSome?_cons, Option.bind_some]

/-- A fit script is rendered exactly when its references are admitted. -/
theorem exists_render_iff_of_fit (h : ∀ item ∈ s, item.Fit) :
    (∃ f, Script.render l s = .ok f) ↔
      ∀ id ∈ s.filterMap ScriptItem.reference?, l.admits id = true := by
  rw [exists_render_iff, fault?_of_fit h, List.findSome?_eq_none_iff]
  simp only [Links.missing?, ite_eq_left_iff, reduceCtorEq, imp_false, not_not]

/-- Otherwise it fails with the first reference that is not. -/
theorem render_of_first_missing (h : ∀ item ∈ s, item.Fit) {before after : List String}
    {id : String} (hreferences : s.filterMap ScriptItem.reference? = before ++ id :: after)
    (hbefore : ∀ i ∈ before, l.admits i = true) (hid : l.admits id = false) :
    Script.render l s = .error (.unknownSection id) := by
  have hnone : before.findSome? l.missing? = none := by
    refine List.findSome?_eq_none_iff.2 fun i hi => ?_
    rw [Links.missing?, if_pos (hbefore i hi)]
  rw [render_eq_error_iff, fault?_of_fit h, hreferences, List.findSome?_append, hnone,
    Option.none_or, List.findSome?_cons, Links.missing?, hid]
  rfl

end Script

end StaticSite
