import StaticSite.Proofs.FileTree.Entry

/-!
# Files in a directory that is there

A program that works in one directory addresses every file by the path of the directory joined with
a name. This module says what the operations on such paths do, in terms of the names alone.

## The contract

`t.Opens dir loc` says that `dir` leads through directories to `loc`. Whether it does depends on the
directories of the tree only, so it survives every change that takes no directory away: files
written into the directory, files deleted from it, directories made elsewhere. While it holds,
the path of a name in `dir` leads to `loc.below name` or is refused for its length or for a NUL,
whatever the tree holds.

## Main results

* `Path.steps_join` — the steps of a joined path
* `FileTree.locate_join_iff` — where the path of a name leads
* `FileTree.suffix_of_locate` — the place a path leads to ends as the path does
* `FileTree.Opens.find?_join` — what it leads to
* `FileTree.Opens.writeText_iff` — when a file can be written, and what the tree is then
* `FileTree.Opens.find?_delete_join` — deleting a file takes away that file only
-/

namespace StaticSite

/-! ### Steps of a joined path -/

namespace Text

variable {c : Char}

theorem splitAt_ne_nil (c : Char) (s : List Char) : splitAt c s ≠ [] := by
  cases s with
  | nil => exact nofun
  | cons x rest =>
    rw [splitAt]
    split
    · exact nofun
    · split <;> exact nofun

theorem splitAt_of_not_mem {s : List Char} (h : c ∉ s) : splitAt c s = [s] := by
  induction s with
  | nil => rfl
  | cons x rest ih =>
    rw [List.mem_cons, not_or] at h
    rw [splitAt, if_neg (Ne.symm h.1), ih h.2]

theorem splitAt_append (a b : List Char) :
    splitAt c (a ++ c :: b) = splitAt c a ++ splitAt c b := by
  induction a with
  | nil => simp [splitAt]
  | cons x rest ih =>
    by_cases hx : x = c
    · subst hx
      rw [List.cons_append, splitAt, if_pos rfl, ih, splitAt, if_pos rfl, List.cons_append]
    · rw [List.cons_append, splitAt, if_neg hx, ih, splitAt, if_neg hx]
      cases hs : splitAt c rest with
      | nil => exact absurd hs (splitAt_ne_nil c rest)
      | cons part parts => rfl

/-- What is appended without the separator goes to the last part. -/
theorem exists_splitAt_append {b : List Char} (h : c ∉ b) (a : List Char) :
    ∃ front last, splitAt c (a ++ b) = front ++ [last ++ b] := by
  induction a with
  | nil => exact ⟨[], [], splitAt_of_not_mem h⟩
  | cons x rest ih =>
    obtain ⟨front, last, hsplit⟩ := ih
    rw [List.cons_append, splitAt, hsplit]
    by_cases hx : x = c
    · exact ⟨[] :: front, last, by rw [if_pos hx, List.cons_append]⟩
    · rw [if_neg hx]
      cases front with
      | nil => exact ⟨[], x :: last, rfl⟩
      | cons part parts => exact ⟨(x :: part) :: parts, last, rfl⟩

theorem not_mem_of_mem_splitAt {s part : List Char} (h : part ∈ splitAt c s) : c ∉ part := by
  induction s generalizing part with
  | nil => simp [splitAt] at h; simp [h]
  | cons x rest ih =>
    rw [splitAt] at h
    split at h
    · rcases List.mem_cons.1 h with rfl | h
      · exact List.not_mem_nil
      · exact ih h
    next hx =>
      split at h
      next hs => exact absurd hs (splitAt_ne_nil c rest)
      next first others hs =>
        rcases List.mem_cons.1 h with rfl | h
        · rw [List.mem_cons, not_or]
          exact ⟨Ne.symm hx, ih (hs ▸ List.mem_cons_self)⟩
        · exact ih (hs ▸ List.mem_cons_of_mem _ h)

end Text

/-- A name that a directory can list: one step of a path, and not one that stays or goes up. -/
structure IsFileName (name : String) : Prop where
  no_slash : '/' ∉ name.toList
  ne_empty : name ≠ ""
  ne_here : name ≠ "."
  ne_above : name ≠ ".."

namespace Path

variable {dir : Path} {name : String}

/-- The parts of a path that are not empty. -/
def parts (p : Path) : List String :=
  ((Text.splitAt '/' p.text.toList).map String.ofList).filter (· ≠ "")

theorem steps_eq (p : Path) :
    p.steps = p.parts.filter (· ≠ ".") ++ if p.parts.getLast? = some "." then ["."] else [] := rfl

theorem not_mem_of_mem_steps {p : Path} {step : String} (h : step ∈ p.steps) :
    '/' ∉ step.toList := by
  have hparts : ∀ s ∈ p.parts, '/' ∉ s.toList := by
    intro s hs
    obtain ⟨cs, hcs, rfl⟩ := List.mem_map.1 (List.mem_filter.1 hs).1
    simpa using Text.not_mem_of_mem_splitAt hcs
  rw [steps_eq, List.mem_append] at h
  rcases h with h | h
  · exact hparts step (List.mem_filter.1 h).1
  · split at h
    · rw [List.mem_singleton.1 h]
      decide
    · exact absurd h List.not_mem_nil

theorem parts_append_slash (a : String) (h : IsFileName name) :
    (⟨a ++ "/" ++ name⟩ : Path).parts = (⟨a⟩ : Path).parts ++ [name] := by
  have hs := Text.splitAt_append (c := '/') a.toList name.toList
  rw [Text.splitAt_of_not_mem h.no_slash] at hs
  simp [parts, String.toList_append, hs, h.ne_empty]

theorem parts_push_slash (a : String) : (⟨a ++ "/"⟩ : Path).parts = (⟨a⟩ : Path).parts := by
  have hs := Text.splitAt_append (c := '/') a.toList []
  simp [parts, String.toList_append, hs, Text.splitAt]

/-- A joined path is the directory's text, a slash where it needs one, and the name. -/
theorem join_cases (dir : Path) (h : IsFileName name) :
    (dir.text = "" ∧ dir.join name = ⟨name⟩) ∨
    (∃ a, dir.text = a ++ "/" ∧ dir.join name = ⟨a ++ "/" ++ name⟩) ∨
    dir.join name = ⟨dir.text ++ "/" ++ name⟩ := by
  have hhead : name.toList.head? ≠ some '/' := fun hh => h.no_slash (List.mem_of_head? hh)
  rw [join, if_neg hhead]
  by_cases he : dir.text = ""
  · refine .inl ⟨he, ?_⟩
    rw [if_pos (by simp [he]), he, String.empty_append]
  · right
    by_cases hl : dir.text.toList.getLast? = some '/'
    · left
      obtain ⟨l, hl'⟩ := List.getLast?_eq_some_iff.1 hl
      have ha : dir.text = String.ofList l ++ "/" :=
        String.toList_inj.1 (by rw [hl', String.toList_append, String.toList_ofList]; rfl)
      exact ⟨_, ha, by rw [if_pos (by simp [hl]), ha]⟩
    · right
      rw [if_neg (by simp [he, hl])]

theorem parts_join (dir : Path) (h : IsFileName name) :
    (dir.join name).parts = dir.parts ++ [name] := by
  rcases dir.join_cases h with ⟨he, hj⟩ | ⟨a, ha, hj⟩ | hj
  · rw [hj]
    simp [parts, he, Text.splitAt_of_not_mem h.no_slash, h.ne_empty, Text.splitAt]
  · have hd : dir = ⟨a ++ "/"⟩ := congrArg Path.mk ha
    rw [hj, parts_append_slash a h, hd, parts_push_slash]
  · rw [hj, parts_append_slash dir.text h]

/-- **The steps of a joined path** are those of the directory, and then the name. -/
theorem steps_join (dir : Path) (h : IsFileName name) :
    (dir.join name).steps = dir.steps.filter (· ≠ ".") ++ [name] := by
  have hdot : (if dir.parts.getLast? = some "." then ["."] else []).filter (· ≠ ".") = [] := by
    split <;> rfl
  rw [steps_eq, parts_join dir h, steps_eq, List.filter_append, List.filter_append, hdot,
    List.append_nil, List.filter_filter]
  simp [h.ne_here]

theorem asksDirectory_join (dir : Path) (h : IsFileName name) :
    (dir.join name).asksDirectory = false := by
  have hlast : ∀ s : String, (s ++ name).toList.getLast? ≠ some '/' := by
    intro s hs
    rw [String.toList_append, List.getLast?_append] at hs
    cases hn : name.toList.getLast? with
    | none => exact h.ne_empty (String.toList_inj.1 (List.getLast?_eq_none_iff.1 hn))
    | some c =>
      rw [hn, Option.some_or, Option.some.injEq] at hs
      exact h.no_slash (hs ▸ List.mem_of_getLast? hn)
  rw [asksDirectory, decide_eq_false_iff_not]
  rcases dir.join_cases h with ⟨-, hj⟩ | ⟨a, -, hj⟩ | hj
  · rw [hj]
    simpa using hlast ""
  · exact hj ▸ hlast _
  · exact hj ▸ hlast _

/-- A path that is refused as a whole is refused with every name behind it. -/
theorem fault?_of_join (dir : Path) (h : IsFileName name) (hf : (dir.join name).fault? = none) :
    dir.fault? = none := by
  have hprefix : ∃ b, (dir.join name).text = dir.text ++ b := by
    rcases dir.join_cases h with ⟨he, hj⟩ | ⟨a, ha, hj⟩ | hj
    · exact ⟨name, by rw [hj, he, String.empty_append]⟩
    · exact ⟨name, by rw [hj, ha]⟩
    · exact ⟨"/" ++ name, by rw [hj, String.append_assoc]⟩
  obtain ⟨b, hb⟩ := hprefix
  simp only [fault?, hb, String.toList_append, String.utf8ByteSize_append] at hf
  rw [fault?]
  by_cases hnul : dir.text.toList.contains '\x00' = true
  · rw [if_pos (by rw [List.contains_append, hnul, Bool.true_or])] at hf
    cases hf
  · rw [if_neg hnul]
    split at hf
    · cases hf
    split at hf
    · cases hf
    · rw [if_neg (by omega)]

theorem join_text_ne_empty (dir : Path) (h : IsFileName name) : (dir.join name).text ≠ "" := by
  have hne : ∀ s : String, s ++ name ≠ "" := by
    intro s hs
    have := congrArg String.toList hs
    rw [String.toList_append] at this
    exact h.ne_empty (String.toList_inj.1 (List.append_eq_nil_iff.1 this).2)
  rcases dir.join_cases h with ⟨-, hj⟩ | ⟨a, -, hj⟩ | hj
  · rw [hj]
    exact h.ne_empty
  · exact hj ▸ hne _
  · exact hj ▸ hne _

theorem suffix_text_join (dir : Path) (name : String) :
    name.toList <:+ (dir.join name).text.toList := by
  rw [join]
  split
  · exact List.suffix_rfl
  · split
    · rw [String.toList_append]
      exact List.suffix_append _ _
    · rw [String.toList_append]
      exact List.suffix_append _ _

/-- An ending that is longer than `..` and has no slash is the ending of the last step. -/
theorem exists_steps_eq_append {p : Path} {ending : List Char} (hslash : '/' ∉ ending)
    (hlen : 2 < ending.length) (h : ending <:+ p.text.toList) :
    ∃ front name, p.steps = front ++ [name] ∧ ending <:+ name.toList := by
  obtain ⟨a, ha⟩ := h
  obtain ⟨front, last, hsplit⟩ := Text.exists_splitAt_append hslash a
  have hne : ∀ s : String, s.toList.length ≤ 2 → String.ofList (last ++ ending) ≠ s := by
    rintro s hs rfl
    rw [String.toList_ofList, List.length_append] at hs
    omega
  have hparts : p.parts =
      (front.map String.ofList).filter (· ≠ "") ++ [String.ofList (last ++ ending)] := by
    rw [parts, ← ha, hsplit, List.map_append, List.filter_append]
    simp only [List.map_cons, List.map_nil]
    rw [List.filter_cons_of_pos (by simpa only [decide_eq_true_eq] using hne "" (by decide)),
      List.filter_nil]
  refine ⟨p.parts.dropLast.filter (· ≠ "."), String.ofList (last ++ ending), ?_, ?_⟩
  · have hhere : String.ofList (last ++ ending) ≠ "." := hne "." (by decide)
    rw [steps_eq, hparts, List.getLast?_concat, if_neg fun h => hhere (Option.some.inj h),
      List.append_nil, List.dropLast_concat, List.filter_append,
      List.filter_cons_of_pos (by simpa only [decide_eq_true_eq] using hhere), List.filter_nil]
  · rw [String.toList_ofList]
    exact List.suffix_append _ _

/-- Whether a name can be addressed in a directory: neither it nor the whole path is too long, and
there is no NUL in the path. -/
def Admits (dir : Path) (name : String) : Prop :=
  (dir.join name).fault? = none ∧ name.utf8ByteSize ≤ 255

instance (dir : Path) (name : String) : Decidable (dir.Admits name) :=
  inferInstanceAs (Decidable (_ ∧ _))

end Path

/-! ### Where the path of a name leads -/

namespace FileTree

variable {t t' : FileTree} {dir : Path} {here loc : Location} {name : String}

/-- The directory that steps lead to from a location, when every step leads into a directory. -/
def enter? (t : FileTree) (here : Location) : List String → Option Location
  | [] => some here
  | step :: rest =>
    if step = "." then t.enter? here rest
    else if step = ".." then t.enter? here.above rest
    else if 255 < step.utf8ByteSize then none
    else
      match t.entry? (here.below step) with
      | some .directory => t.enter? (here.below step) rest
      | _ => none

/-- A step down, or a step that stays or goes up: what `enter?` does with one step. -/
theorem enter?_cons_eq_some_iff {step : String} {rest : List String} :
    t.enter? here (step :: rest) = some loc ↔
      (step = "." ∧ t.enter? here rest = some loc) ∨
      (step = ".." ∧ t.enter? here.above rest = some loc) ∨
      (step ≠ "." ∧ step ≠ ".." ∧ step.utf8ByteSize ≤ 255 ∧
        t.entry? (here.below step) = some .directory ∧
        t.enter? (here.below step) rest = some loc) := by
  rw [enter?]
  by_cases h₁ : step = "."
  · simp [h₁]
  · by_cases h₂ : step = ".."
    · simp [h₂]
    · by_cases h₃ : 255 < step.utf8ByteSize
      · simp [h₁, h₂, h₃, Nat.not_le.2 h₃]
      · rw [if_neg h₁, if_neg h₂, if_neg h₃]
        split
        next hd => simp [h₁, h₂, hd, Nat.not_lt.1 h₃]
        next hd =>
          have hno : t.entry? (here.below step) ≠ some .directory := fun he => hd he
          simp [h₁, h₂, hno]

theorem enter?_filter (steps : List String) :
    t.enter? here (steps.filter (· ≠ ".")) = t.enter? here steps := by
  induction steps generalizing here with
  | nil => rfl
  | cons step rest ih =>
    by_cases h : step = "."
    · subst h
      rw [List.filter_cons_of_neg (by simp), ih, enter?, if_pos rfl]
    · rw [List.filter_cons_of_pos (by simpa using h), enter?, enter?, if_neg h, if_neg h]
      simp only [ih]

/-- A walk to a name goes through directories up to the last step, which it only spells out. -/
theorem walk_append_iff (hhere : name ≠ ".") (habove : name ≠ "..") {steps : List String} :
    t.walk here (steps ++ [name]) = .ok loc ↔
      name.utf8ByteSize ≤ 255 ∧ ∃ d, t.enter? here steps = some d ∧ loc = d.below name := by
  induction steps generalizing here with
  | nil =>
    rw [List.nil_append, walk, if_neg hhere, if_neg habove, enter?]
    by_cases hlen : 255 < name.utf8ByteSize
    · simp [hlen, Nat.not_le.2 hlen]
    · simp [hlen, Nat.not_lt.1 hlen, eq_comm]
  | cons step rest ih =>
    rw [List.cons_append, walk, enter?]
    by_cases h₁ : step = "."
    · rw [if_pos h₁, if_pos h₁, ih]
    · rw [if_neg h₁, if_neg h₁]
      by_cases h₂ : step = ".."
      · rw [if_pos h₂, if_pos h₂, ih]
      · rw [if_neg h₂, if_neg h₂]
        by_cases h₃ : 255 < step.utf8ByteSize
        · simp [h₃]
        · rw [if_neg h₃, if_neg h₃, if_neg (by simp)]
          cases t.entry? (here.below step) with
          | none => simp
          | some e =>
            cases e with
            | directory => exact ih
            | file _ => simp

/-- **Where the path of a name leads**, whenever it leads anywhere. -/
theorem locate_join_iff (t : FileTree) (dir : Path) (h : IsFileName name) :
    t.locate (dir.join name) = .ok loc ↔
      dir.Admits name ∧ ∃ d, t.enter? .top dir.steps = some d ∧ loc = d.below name := by
  rw [locate, if_neg (dir.join_text_ne_empty h), dir.asksDirectory_join h, dir.steps_join h,
    Path.Admits]
  cases (dir.join name).fault? with
  | some e => simp
  | none =>
    simp only [Bool.false_eq_true, if_false, List.append_nil]
    rw [walk_append_iff h.ne_here h.ne_above, enter?_filter]
    exact ⟨fun ⟨hlen, hd⟩ => ⟨⟨trivial, hlen⟩, hd⟩, fun ⟨hlen, hd⟩ => ⟨hlen.2, hd⟩⟩

/-- **A path leads to a place with the same ending.** So a path that ends differently from the name
of a file never leads to that file, whatever slashes it holds. -/
theorem suffix_of_locate {p : Path} {ending : List Char} (hslash : '/' ∉ ending)
    (hlen : 2 < ending.length) (hp : ending <:+ p.text.toList) (h : t.locate p = .ok loc) :
    ending <:+ loc.text.toList := by
  obtain ⟨front, name, hsteps, hname⟩ := Path.exists_steps_eq_append hslash hlen hp
  have hne : ∀ s : String, s.toList.length ≤ 2 → name ≠ s := by
    rintro s hs rfl
    exact absurd (Nat.le_trans hname.length_le hs) (Nat.not_le.2 hlen)
  have hasks : p.asksDirectory = false := by
    rw [Path.asksDirectory, decide_eq_false_iff_not]
    intro hlast
    obtain ⟨a, ha⟩ := hp
    have hnil : ending ≠ [] := List.ne_nil_of_length_pos (by omega)
    rw [← ha, List.getLast?_append, List.getLast?_eq_some_getLast hnil, Option.some_or,
      Option.some.injEq] at hlast
    exact hslash (hlast ▸ List.getLast_mem hnil)
  rw [locate] at h
  split at h
  · cases h
  split at h
  · cases h
  rw [hasks, hsteps, if_neg Bool.false_ne_true, List.append_nil,
    walk_append_iff (hne "." (by decide)) (hne ".." (by decide))] at h
  obtain ⟨-, d, -, rfl⟩ := h
  rw [Location.toList_below]
  exact hname.trans (List.suffix_append _ _)

/-- The text of a file is what was written as text. -/
theorem readText_eq_ok_iff {p : Path} {text : String} :
    t.readText p = .ok text ↔ t.find? p = some (.file text.toUTF8) := by
  have hutf : ∀ content, String.fromUTF8? content = some text ↔ content = text.toUTF8 := by
    intro content
    rw [String.fromUTF8?, String.toUTF8_eq_toByteArray]
    constructor
    · intro h
      split at h
      · cases h
        rfl
      · exact absurd h nofun
    · rintro rfl
      rw [dif_pos text.isValidUTF8]
      rfl
  rw [readText, read, find?]
  cases t.locate p with
  | error e => simp
  | ok loc =>
    cases he : t.entry? loc with
    | none => simp [he]
    | some e =>
      cases e with
      | directory => simp [he]
      | file content =>
        simp only [he, Option.some.injEq, Entry.file.injEq]
        rw [← hutf content]
        cases String.fromUTF8? content <;> simp

/-- Whatever is written is put where its path leads, unless a directory is there. -/
theorem writeText_eq_ok_iff {p : Path} {text : String} :
    t.writeText p text = .ok t' ↔
      ∃ loc, t.locate p = .ok loc ∧ t.entry? loc ≠ some .directory ∧
        t' = t.put loc (.file text.toUTF8) := by
  rw [writeText, write]
  cases t.locate p with
  | error e => simp
  | ok loc =>
    cases he : t.entry? loc with
    | none => simp [he, eq_comm]
    | some e => cases e <;> simp [he, eq_comm]

/-! ### Open directories -/

/-- The path leads through directories to a location, and is not refused as a whole. -/
structure Opens (t : FileTree) (dir : Path) (loc : Location) : Prop where
  fault : dir.fault? = none
  enters : t.enter? .top dir.steps = some loc

namespace Opens

variable {d : Location} {m n : String}

theorem locate_iff (h : t.Opens dir d) (hn : IsFileName n) :
    t.locate (dir.join n) = .ok loc ↔ dir.Admits n ∧ loc = d.below n := by
  rw [locate_join_iff t dir hn, h.enters]
  simp

theorem locate_of_admits (h : t.Opens dir d) (hn : IsFileName n) (ha : dir.Admits n) :
    t.locate (dir.join n) = .ok (d.below n) :=
  (h.locate_iff hn).2 ⟨ha, rfl⟩

/-- **What the path of a name leads to.** -/
theorem find?_join (h : t.Opens dir d) (hn : IsFileName n) :
    t.find? (dir.join n) = if dir.Admits n then t.entry? (d.below n) else none := by
  by_cases ha : dir.Admits n
  · rw [find?, h.locate_of_admits hn ha, if_pos ha]
  · rw [find?, if_neg ha]
    cases hl : t.locate (dir.join n) with
    | error e => rfl
    | ok loc => exact absurd ((h.locate_iff hn).1 hl).1 ha

theorem admits_of_find? (h : t.Opens dir d) (hn : IsFileName n) {e : Entry}
    (he : t.find? (dir.join n) = some e) : dir.Admits n := by
  by_cases ha : dir.Admits n
  · exact ha
  · rw [h.find?_join hn, if_neg ha] at he
    exact absurd he nofun

/-- **Writing.** A file can be written unless its path is refused or a directory is in its place. -/
theorem writeText_iff (h : t.Opens dir d) (hn : IsFileName n) {text : String} :
    t.writeText (dir.join n) text = .ok t' ↔
      dir.Admits n ∧ t.find? (dir.join n) ≠ some .directory ∧
        t' = t.put (d.below n) (.file text.toUTF8) := by
  rw [writeText_eq_ok_iff, h.find?_join hn]
  by_cases ha : dir.Admits n
  · simp [h.locate_of_admits hn ha, ha]
  · simp [h.locate_iff hn, ha]

/-- Where the directories are kept, a path stays open. -/
theorem mono (h : t.Opens dir d)
    (hdirs : ∀ l, t.entry? l = some .directory → t'.entry? l = some .directory) :
    t'.Opens dir d := by
  have henter : ∀ steps here, t.enter? here steps = some d → t'.enter? here steps = some d := by
    intro steps
    induction steps with
    | nil => exact fun _ hs => hs
    | cons step rest ih =>
      intro here hs
      rw [enter?_cons_eq_some_iff] at hs ⊢
      rcases hs with ⟨h₁, hs⟩ | ⟨h₂, hs⟩ | ⟨h₁, h₂, hlen, hd, hs⟩
      · exact .inl ⟨h₁, ih _ hs⟩
      · exact .inr (.inl ⟨h₂, ih _ hs⟩)
      · exact .inr (.inr ⟨h₁, h₂, hlen, hdirs _ hd, ih _ hs⟩)
  exact ⟨h.fault, henter _ _ h.enters⟩

/-- A file put in the place of no directory leaves the path open. -/
theorem put_file (h : t.Opens dir d) (hloc : t.entry? loc ≠ some .directory) (content : ByteArray) :
    (t.put loc (.file content)).Opens dir d := by
  refine h.mono fun l hl => ?_
  have hne : loc ≠ .top := fun ht => hloc (by rw [ht, entry?_top])
  have hl' : l ≠ loc := by
    rintro rfl
    exact hloc hl
  rw [entry?_put hne, if_neg hl', hl]

/-- **Reading after writing.** -/
theorem find?_put_join (h : t.Opens dir d) (hm : IsFileName m) (hn : IsFileName n)
    (ha : dir.Admits n) (hfree : t.find? (dir.join n) ≠ some .directory) (content : ByteArray) :
    (t.put (d.below n) (.file content)).find? (dir.join m) =
      if m = n then some (.file content) else t.find? (dir.join m) := by
  rw [h.find?_join hn, if_pos ha] at hfree
  rw [(h.put_file hfree content).find?_join hm, h.find?_join hm,
    entry?_put (Location.below_ne_top d hn.ne_empty)]
  by_cases hmn : m = n
  · subst hmn
    simp [ha]
  · rw [if_neg fun he => hmn (Location.below_injective he), if_neg hmn]

end Opens

/-! ### Deleting a file -/

/-- A directory with nothing but directories around it. -/
structure Anchored (t : FileTree) (loc : Location) : Prop where
  here : t.entry? loc = some .directory
  around : ∀ a, loc.isWithin a = true → t.entry? a = some .directory

namespace Anchored

theorem top (t : FileTree) : t.Anchored .top :=
  ⟨entry?_top t, fun a h => by simp [Location.isWithin] at h⟩

theorem above (h : t.Anchored here) : t.Anchored here.above := by
  refine ⟨?_, fun a ha => h.around a (Location.isWithin_of_above ha)⟩
  rcases here.above_eq_top_or_isWithin with ht | hw
  · rw [ht, entry?_top]
  · exact h.around _ hw

theorem below (h : t.Anchored here) {step : String} (hstep : '/' ∉ step.toList)
    (hd : t.entry? (here.below step) = some .directory) : t.Anchored (here.below step) := by
  refine ⟨hd, fun a ha => ?_⟩
  rcases Location.eq_or_isWithin_of_below hstep ha with rfl | hw
  · exact h.here
  · exact h.around a hw

/-- Taking away what is no directory leaves an anchored directory in its place. -/
theorem entry?_remove (h : t.Anchored here) (hloc : t.entry? loc ≠ some .directory) :
    FileTree.entry? (t.remove loc) here = some .directory := by
  rw [FileTree.entry?_remove, if_neg, h.here]
  rintro ⟨-, rfl | hw⟩
  · exact hloc h.here
  · exact hloc (h.around loc hw)

end Anchored

theorem enter?_remove (hloc : t.entry? loc ≠ some .directory) {d : Location} :
    ∀ {steps : List String} {here : Location}, (∀ s ∈ steps, '/' ∉ s.toList) → t.Anchored here →
      t.enter? here steps = some d → (t.remove loc).enter? here steps = some d := by
  intro steps
  induction steps with
  | nil => exact fun _ _ hs => hs
  | cons step rest ih =>
    intro here hslash hanch hs
    have hrest : ∀ s ∈ rest, '/' ∉ s.toList := fun s hs => hslash s (List.mem_cons_of_mem _ hs)
    rw [enter?_cons_eq_some_iff] at hs ⊢
    rcases hs with ⟨h₁, hs⟩ | ⟨h₂, hs⟩ | ⟨h₁, h₂, hlen, hd, hs⟩
    · exact .inl ⟨h₁, ih hrest hanch hs⟩
    · exact .inr (.inl ⟨h₂, ih hrest hanch.above hs⟩)
    · have hbelow := hanch.below (hslash step List.mem_cons_self) hd
      exact .inr (.inr ⟨h₁, h₂, hlen, hbelow.entry?_remove hloc, ih hrest hbelow hs⟩)

namespace Opens

variable {d : Location} {m n : String}

/-- Deleting a file of an open directory leaves the directory open. -/
theorem delete_join (h : t.Opens dir d) (hn : IsFileName n)
    (hfile : t.find? (dir.join n) ≠ some .directory) : (t.delete (dir.join n)).Opens dir d := by
  rw [delete]
  split
  next loc hl =>
    obtain ⟨ha, rfl⟩ := (h.locate_iff hn).1 hl
    rw [h.find?_join hn, if_pos ha] at hfile
    exact ⟨h.fault, enter?_remove hfile (fun s hs => Path.not_mem_of_mem_steps hs)
      (Anchored.top t) h.enters⟩
  next => exact h

/-- **Deleting.** The file is gone, and every other name leads to what it led to before. -/
theorem find?_delete_join (h : t.Opens dir d) (hm : IsFileName m) (hn : IsFileName n)
    (hfile : t.find? (dir.join n) ≠ some .directory) :
    (t.delete (dir.join n)).find? (dir.join m) =
      if m = n then none else t.find? (dir.join m) := by
  have hopen := h.delete_join hn hfile
  by_cases ha : dir.Admits n
  · have hdel : t.delete (dir.join n) = t.remove (d.below n) := by
      rw [delete, h.locate_of_admits hn ha]
    rw [hopen.find?_join hm, hdel, entry?_remove,
      Location.not_below_isWithin_below hm.no_slash hn.ne_empty, h.find?_join hm]
    by_cases hmn : m = n
    · subst hmn
      simp [Location.below_ne_top d hm.ne_empty]
    · have hne : d.below m ≠ d.below n := fun he => hmn (Location.below_injective he)
      simp [hmn, hne]
  · have hdel : t.delete (dir.join n) = t := by
      rw [delete]
      split
      next loc hl => exact absurd ((h.locate_iff hn).1 hl).1 ha
      next => rfl
    rw [hdel]
    by_cases hmn : m = n
    · subst hmn
      rw [h.find?_join hm, if_neg ha, if_pos rfl]
    · rw [if_neg hmn]

end Opens

/-- Nothing is deleted from a directory that is not there. -/
theorem delete_of_not_opens (hn : IsFileName name) (h : ∀ d, ¬t.Opens dir d) :
    t.delete (dir.join name) = t := by
  rw [delete]
  split
  next loc hl =>
    obtain ⟨⟨hfault, -⟩, d, hd, -⟩ := (locate_join_iff t dir hn).1 hl
    exact absurd ⟨dir.fault?_of_join hn hfault, hd⟩ (h d)
  next => rfl

end FileTree

end StaticSite
