import StaticSite.Json.Printer
import StaticSite.Json.Reader

/-!
# Reading back what was printed

The reader takes the printed form of a value back to the value. Half a surrogate pair cannot be
read back, and of the numbers only the natural ones are printed by this library; a value without
either is `Legible`.

The statements are about a printed value with more text behind it, since that is what the reader
meets inside an array or an object. What may stand behind a value is `Follows`: the end, a comma or
the break before a closing bracket. A number in front of any other character could go on.

## Main results

* `Json.readString_quote` — a quoted text is read as the text
* `Json.readValue_print` — a printed value is read as the value, and the rest is left
* `Json.read_pretty` — the whole text of a value is read as the value
-/

namespace StaticSite.Json

/-! ### Values that can be read back -/

mutual

/-- A value whose text is read as the value. -/
def Value.Legible : Value → Prop
  | .null => True
  | .bool _ => True
  | .number text => ∃ n, text = Text.decimal n
  | .string _ => True
  | .garbled => False
  | .array items => Value.LegibleItems items
  | .object members => Value.LegibleMembers members

/-- Items that are all legible. -/
def Value.LegibleItems : List Value → Prop
  | [] => True
  | item :: rest => item.Legible ∧ Value.LegibleItems rest

/-- Members with legible values. -/
def Value.LegibleMembers : List (String × Value) → Prop
  | [] => True
  | (_, value) :: rest => value.Legible ∧ Value.LegibleMembers rest

end

theorem Value.legible_nat (n : Nat) : (Value.nat n).Legible := ⟨n, rfl⟩

theorem Value.legibleMembers_iff {members : List (String × Value)} :
    Value.LegibleMembers members ↔ ∀ m ∈ members, m.2.Legible := by
  induction members with
  | nil => simp [Value.LegibleMembers]
  | cons m rest ih => simp [Value.LegibleMembers, ih]

/-- What stands behind a printed value: nothing, a comma, or the break before a bracket. -/
def Follows (rest : List Char) : Prop :=
  ∀ c t, rest = c :: t → c = ',' ∨ c = '\n'

theorem follows_nil : Follows [] := nofun

theorem follows_comma (t : List Char) : Follows (',' :: t) := by
  rintro c t h
  cases h
  exact .inl rfl

theorem follows_newline (depth : Nat) (t : List Char) : Follows (newline depth ++ t) := by
  rintro c t h
  cases h
  exact .inr rfl

/-! ### Blanks -/

theorem skipSpace_cons_of_not {c : Char} (h : isSpace c = false) (t : List Char) :
    skipSpace (c :: t) = c :: t := by
  rw [skipSpace, List.dropWhile_cons, h]
  rfl

@[simp] theorem skipSpace_space (t : List Char) : skipSpace (' ' :: t) = skipSpace t := rfl

@[simp] theorem skipSpace_newline (depth : Nat) (t : List Char) :
    skipSpace (newline depth ++ t) = skipSpace t := by
  have blanks : ∀ n, skipSpace (List.replicate n ' ' ++ t) = skipSpace t := by
    intro n
    induction n with
    | zero => rfl
    | succ n ih => rw [List.replicate_succ, List.cons_append, skipSpace_space, ih]
  exact blanks (2 * depth)

/-! ### Strings -/

theorem hexDigit?_digitChar : ∀ d < 16, Text.hexDigit? (Nat.digitChar d) = some d := by
  decide

/-- The escape of a control character stands for the character. -/
theorem hexNumber?_control {n : Nat} (h : n < 0x20) :
    Text.hexNumber? ['0', '0', Nat.digitChar (n / 16), Nat.digitChar (n % 16)] = some n := by
  have h₁ := hexDigit?_digitChar (n / 16) (by omega)
  have h₂ := hexDigit?_digitChar (n % 16) (by omega)
  have h₀ : Text.hexDigit? '0' = some 0 := by decide
  simp only [Text.hexNumber?, List.foldlM_cons, List.foldlM_nil, h₀, h₁, h₂]
  simp only [Option.map_some, Option.bind_eq_bind, Option.bind_some, Option.pure_def,
    Option.some.injEq]
  omega

/-- A character that stands for itself is one unit. -/
theorem readUnits_char {c : Char} (h : ¬ c.toNat < 0x20) (hq : c ≠ '"') (hb : c ≠ '\\')
    (t : List Char) :
    readUnits (c :: t) = (readUnits t).map fun r => (.char c :: r.1, r.2) := by
  rw [readUnits]
  · simp [h, hb]
  · exact hq
  · rintro a b c' d rest rfl
    exact absurd rfl hb
  · rintro e rest rfl
    exact absurd rfl hb

/-- **One character.** Its escaped form is read as the one unit that it is. -/
theorem readUnits_escapeChar (c : Char) (t : List Char) :
    readUnits (escapeChar c ++ t) = (readUnits t).map fun r => (.char c :: r.1, r.2) := by
  unfold escapeChar
  split
  all_goals try rfl
  next hq hb _ _ _ _ _ =>
    split
    next hlow =>
      have hn : Unit16.ofNat c.toNat = .char c := by
        rw [Unit16.ofNat, if_neg (by omega), if_neg (by omega), Char.ofNat_toNat]
      simp only [List.cons_append, List.nil_append, readUnits, hexNumber?_control hlow, hn]
    next hlow => exact readUnits_char hlow hq hb t

/-- The units of an escaped text are its characters. -/
theorem readUnits_flatMap (cs t : List Char) :
    readUnits (cs.flatMap escapeChar ++ '"' :: t) = some (cs.map .char, t) := by
  induction cs with
  | nil => rfl
  | cons c rest ih =>
    rw [List.flatMap_cons, List.append_assoc, readUnits_escapeChar, ih]
    rfl

theorem textOfUnits_char (cs : List Char) : textOfUnits (cs.map .char) = some cs := by
  induction cs with
  | nil => rfl
  | cons c rest ih => rw [List.map_cons, textOfUnits, ih]; rfl

theorem quote_append (s : String) (t : List Char) :
    quote s ++ t = '"' :: (s.toList.flatMap escapeChar ++ '"' :: t) := by
  simp [quote]

/-- **A quoted text is read as the text.** -/
theorem readString_quote (s : String) (t : List Char) :
    readString (s.toList.flatMap escapeChar ++ '"' :: t) = some (some s, t) := by
  rw [readString, readUnits_flatMap]
  simp [textOfUnits_char]

/-! ### Numbers -/

/-- The digits of a positive number do not begin with zero. -/
theorem head_toDigits_ne_zero (n : Nat) (hn : 0 < n) (t : List Char) :
    Nat.toDigits 10 n ≠ '0' :: t := by
  induction n using Nat.strongRecOn generalizing t with
  | _ n ih =>
    by_cases hlt : n < 10
    · rw [Nat.toDigits_of_lt_base hlt]
      have small : ∀ m < 10, 0 < m → Nat.digitChar m ≠ '0' := by decide
      intro h
      exact small n hlt hn (List.cons.inj h).1
    · rw [Nat.toDigits_of_base_le (by omega) (by omega)]
      intro h
      rcases List.append_eq_cons_iff.1 h with ⟨hnil, -⟩ | ⟨t', hd, -⟩
      · exact Nat.toDigits_ne_nil hnil
      · exact ih (n / 10) (by omega) (by omega) t' hd

theorem isDigit_of_mem_decimal {n : Nat} {c : Char} (h : c ∈ (Text.decimal n).toList) :
    c.isDigit = true :=
  Nat.isDigit_of_mem_toDigits (b := 10) (n := n) (by omega) (by omega)
    (by simpa [Text.decimal] using h)

theorem decimal_eq_cons (n : Nat) :
    ∃ c t, (Text.decimal n).toList = c :: t ∧ c.isDigit = true := by
  cases hd : (Text.decimal n).toList with
  | nil => simp [Text.decimal] at hd
  | cons c t => exact ⟨c, t, rfl, isDigit_of_mem_decimal (n := n) (by simp [hd])⟩

/-- A number is read off its digits. -/
theorem Value.nat?_nat (n : Nat) : (Value.nat n).nat? = some n := by
  have hne : (Text.decimal n).toList ≠ [] := by simp [Text.decimal]
  have hall : (Text.decimal n).toList.all Char.isDigit = true :=
    List.all_eq_true.2 fun c hc => isDigit_of_mem_decimal hc
  rw [Value.nat, Value.nat?, if_pos ⟨hne, hall⟩, Text.decimal, String.toList_ofList,
    Nat.ofDigitChars_ten_toDigits]

/-- The digits in front of a text that does not go on with one. -/
theorem readDigits_append {ds t : List Char} (hne : ds ≠ []) (hds : ∀ c ∈ ds, c.isDigit = true)
    (ht : ∀ c r, t = c :: r → c.isDigit = false) : readDigits (ds ++ t) = some (ds, t) := by
  have hstop : t.takeWhile Char.isDigit = [] ∧ t.dropWhile Char.isDigit = t := by
    cases t with
    | nil => exact ⟨rfl, rfl⟩
    | cons c r => simp [ht c r rfl]
  rw [readDigits, List.takeWhile_append_of_pos hds, List.dropWhile_append_of_pos hds, hstop.1,
    hstop.2, List.append_nil, if_neg hne]

theorem Follows.not_isDigit {t : List Char} (h : Follows t) :
    ∀ c r, t = c :: r → c.isDigit = false := by
  rintro c r hc
  rcases h c r hc with rfl | rfl <;> rfl

theorem readWhole_decimal (n : Nat) {t : List Char} (h : Follows t) :
    readWhole (Nat.toDigits 10 n ++ t) = some (Nat.toDigits 10 n, t) := by
  by_cases hn : n = 0
  · subst hn
    rfl
  · rw [readWhole]
    · refine readDigits_append Nat.toDigits_ne_nil (fun c hc => ?_) h.not_isDigit
      exact Nat.isDigit_of_mem_toDigits (by omega) (by omega) hc
    · intro r hr
      rcases List.append_eq_cons_iff.1 hr with ⟨hnil, -⟩ | ⟨t', hd, -⟩
      · exact Nat.toDigits_ne_nil hnil
      · exact head_toDigits_ne_zero n (by omega) t' hd

theorem Follows.readFraction {t : List Char} (h : Follows t) : readFraction t = some ([], t) := by
  cases t with
  | nil => rfl
  | cons c r => rcases h c r rfl with rfl | rfl <;> rfl

theorem Follows.readExponent {t : List Char} (h : Follows t) : readExponent t = some ([], t) := by
  match t with
  | [] => rfl
  | [c] => rcases h c [] rfl with rfl | rfl <;> rfl
  | c :: d :: r => rcases h c (d :: r) rfl with rfl | rfl <;> rfl

/-- **A printed number is read in full.** -/
theorem readNumber_decimal (n : Nat) {t : List Char} (h : Follows t) :
    readNumber ((Text.decimal n).toList ++ t) = some (.number (Text.decimal n), t) := by
  have hd : (Text.decimal n).toList = Nat.toDigits 10 n := by simp [Text.decimal]
  have hminus : ∀ r, Nat.toDigits 10 n ++ t ≠ '-' :: r := by
    intro r hr
    rcases List.append_eq_cons_iff.1 hr with ⟨hnil, -⟩ | ⟨t', hdig, -⟩
    · exact Nat.toDigits_ne_nil hnil
    · have := Nat.isDigit_of_mem_toDigits (b := 10) (n := n) (c := '-') (by omega) (by omega)
        (by simp [hdig])
      exact absurd this (by decide)
  rw [hd, readNumber]
  · simp [readWhole_decimal n h, h.readFraction, h.readExponent, Text.decimal]
  · exact hminus

/-! ### Values -/

/-- What a printed value begins with: no blank, and no bracket that closes an array. -/
theorem Value.print_eq_cons {v : Value} (h : v.Legible) (depth : Nat) :
    ∃ c t, v.print depth = c :: t ∧ isSpace c = false ∧ c ≠ ']' := by
  cases v with
  | null => exact ⟨_, _, rfl, rfl, by decide⟩
  | bool b => cases b <;> exact ⟨_, _, rfl, rfl, by decide⟩
  | string s => exact ⟨_, _, rfl, rfl, by decide⟩
  | garbled => exact h.elim
  | array items =>
    cases items <;> exact ⟨_, _, by simp only [Value.print, List.cons_append]; rfl, rfl, by decide⟩
  | object members =>
    cases members <;>
      exact ⟨_, _, by simp only [Value.print, List.cons_append]; rfl, rfl, by decide⟩
  | number text =>
    obtain ⟨n, rfl⟩ := h
    obtain ⟨c, t, hd, hc⟩ := decimal_eq_cons n
    refine ⟨c, t, by rw [Value.print, hd], ?_, fun he => absurd (he ▸ hc) (by decide)⟩
    simp only [isSpace, Bool.or_eq_false_iff, beq_eq_false_iff_ne]
    refine ⟨⟨⟨?_, ?_⟩, ?_⟩, ?_⟩ <;> exact fun he => absurd (he ▸ hc) (by decide)

theorem skipSpace_print {v : Value} (h : v.Legible) (depth : Nat) (t : List Char) :
    skipSpace (v.print depth ++ t) = v.print depth ++ t := by
  obtain ⟨c, r, hp, hc, -⟩ := v.print_eq_cons h depth
  rw [hp, List.cons_append, skipSpace_cons_of_not hc]

theorem follows_printItems (depth : Nat) (items : List Value) {t : List Char} (h : Follows t) :
    Follows (Value.printItems depth items ++ t) := by
  cases items with
  | nil => exact h
  | cons item rest => exact follows_comma _

theorem follows_printMembers (depth : Nat) (members : List (String × Value)) {t : List Char}
    (h : Follows t) : Follows (Value.printMembers depth members ++ t) := by
  cases members with
  | nil => exact h
  | cons m rest => exact follows_comma _

theorem objectOf_some (members : List (String × Value)) :
    objectOf (members.map fun m => (some m.1, m.2)) = .object members := by
  have hm : (members.map fun m : String × Value => (some m.1, m.2)).mapM
      (fun m => m.1.map fun key => (key, m.2)) = some members := by
    induction members with
    | nil => rfl
    | cons m rest ih => simp [ih]
  rw [objectOf, hm]

/-- A legible number is read by `readNumber`, since no other shape of value begins with a digit. -/
theorem readValue_decimal (fuel n : Nat) {t : List Char} (ht : Follows t) :
    readValue (fuel + 1) ((Text.decimal n).toList ++ t) = some (.number (Text.decimal n), t) := by
  have hskip := skipSpace_print (Value.legible_nat n) 0 t
  rw [Value.nat, Value.print] at hskip
  rw [readValue, hskip]
  obtain ⟨c, r, hd, hc⟩ := decimal_eq_cons n
  rw [hd, List.cons_append]
  split
  case h_7 => rw [← List.cons_append, ← hd]; exact readNumber_decimal n ht
  all_goals
    next heq => exact absurd ((List.cons.inj heq).1 ▸ hc) (by decide)

theorem skipSpace_quote (s : String) (t : List Char) :
    skipSpace (quote s ++ t) = '"' :: (s.toList.flatMap escapeChar ++ '"' :: t) := by
  rw [quote_append, skipSpace_cons_of_not rfl]

/-- An array that does not end at once is read item by item. -/
theorem readValue_bracket (fuel : Nat) {s : List Char}
    (h : ∃ c r, skipSpace s = c :: r ∧ c ≠ ']') :
    readValue (fuel + 1) ('[' :: s) =
      (readItems fuel (skipSpace s)).map fun r => (.array r.1, r.2) := by
  obtain ⟨c, r, hs, hc⟩ := h
  rw [readValue, skipSpace_cons_of_not rfl]
  simp only [hs]
  split
  next heq => exact absurd (List.cons.inj heq).1 hc
  next => rfl

/-- An object that begins with a key is read member by member. -/
theorem readValue_brace (fuel : Nat) {s r : List Char} (h : skipSpace s = '"' :: r) :
    readValue (fuel + 1) ('{' :: s) =
      (readMembers fuel (skipSpace s)).map fun r => (objectOf r.1, r.2) := by
  rw [readValue, skipSpace_cons_of_not rfl]
  simp only [h]
  rfl

theorem readValue_newline (fuel depth : Nat) (s : List Char) :
    readValue fuel (newline depth ++ s) = readValue fuel s := by
  cases fuel with
  | zero => rw [readValue, readValue]
  | succ fuel => rw [readValue, readValue, skipSpace_newline]

theorem readValue_space (fuel : Nat) (s : List Char) :
    readValue fuel (' ' :: s) = readValue fuel s := by
  cases fuel with
  | zero => rw [readValue, readValue]
  | succ fuel => rw [readValue, readValue, skipSpace_space]

theorem readItems_newline (fuel depth : Nat) (s : List Char) :
    readItems fuel (newline depth ++ s) = readItems fuel s := by
  cases fuel with
  | zero => rw [readItems, readItems]
  | succ fuel => rw [readItems, readItems, readValue_newline]

theorem readMembers_newline (fuel depth : Nat) (s : List Char) :
    readMembers fuel (newline depth ++ s) = readMembers fuel s := by
  cases fuel with
  | zero => rw [readMembers, readMembers]
  | succ fuel => rw [readMembers, readMembers, skipSpace_newline]

/-- A member begins with its quoted key, a colon and a blank. -/
theorem readMembers_quote (fuel : Nat) (key : String) (s : List Char) :
    readMembers (fuel + 1) (quote key ++ (':' :: ' ' :: s)) =
      match readValue fuel s with
      | none => none
      | some (value, rest) =>
        match skipSpace rest with
        | ',' :: rest => (readMembers fuel rest).map fun r => ((some key, value) :: r.1, r.2)
        | '}' :: rest => some ([(some key, value)], rest)
        | _ => none := by
  rw [readMembers, skipSpace_quote]
  simp only [readString_quote]
  rw [skipSpace_cons_of_not rfl, ← readValue_space]
  rfl

mutual

/-- **A printed value is read as the value**, and the text behind it is left. -/
theorem readValue_print : ∀ (v : Value) (depth fuel : Nat) (t : List Char), v.Legible →
    Follows t → 2 * (v.print depth).length < fuel →
    readValue fuel (v.print depth ++ t) = some (v, t)
  | .null, _, _ + 1, _, _, _, _ => by rw [Value.print, readValue]; rfl
  | .bool true, _, _ + 1, _, _, _, _ => by rw [Value.print, readValue]; rfl
  | .bool false, _, _ + 1, _, _, _, _ => by rw [Value.print, readValue]; rfl
  | .number _, _, fuel + 1, _, ⟨n, rfl⟩, ht, _ => readValue_decimal fuel n ht
  | .string s, _, fuel + 1, t, _, _, _ => by
    rw [Value.print, quote_append, readValue, skipSpace_cons_of_not rfl]
    simp [readString_quote]
  | .array [], _, _ + 1, _, _, _, _ => by rw [Value.print, readValue]; rfl
  | .array (item :: rest), depth, fuel + 1, t, hv, _, hf => by
    rw [Value.print] at hf ⊢
    simp only [List.length_append, List.length_cons, List.length_nil] at hf
    simp only [List.append_assoc, List.cons_append, List.nil_append]
    have hskip := skipSpace_print hv.1 (depth + 1)
      (Value.printItems (depth + 1) rest ++ (newline depth ++ ']' :: t))
    rw [readValue_bracket, skipSpace_newline, hskip,
      readItems_print item rest (depth + 1) fuel depth t hv.1 hv.2
        (by rw [List.length_append]; omega)]
    · rfl
    · obtain ⟨c, r, hp, -, hc⟩ := item.print_eq_cons hv.1 (depth + 1)
      exact ⟨c, _, by rw [skipSpace_newline, hskip, hp, List.cons_append], hc⟩
  | .object [], _, _ + 1, _, _, _, _ => by rw [Value.print, readValue]; rfl
  | .object ((key, value) :: rest), depth, fuel + 1, t, hv, _, hf => by
    rw [Value.print] at hf ⊢
    simp only [List.length_append, List.length_cons, List.length_nil] at hf
    simp only [List.append_assoc, List.cons_append, List.nil_append]
    rw [readValue_brace fuel (by rw [skipSpace_newline, skipSpace_quote]), skipSpace_newline,
      skipSpace_quote, ← quote_append, readMembers_print key value rest (depth + 1) fuel depth t
        hv.1 hv.2 (by rw [List.length_append]; omega), Option.map_some, objectOf_some]
termination_by structural _ _ fuel => fuel

/-- Printed items are read up to the closing bracket. -/
theorem readItems_print : ∀ (item : Value) (rest : List Value) (depth fuel d : Nat)
    (t : List Char), item.Legible → Value.LegibleItems rest →
    2 * (item.print depth ++ Value.printItems depth rest).length + 1 < fuel →
    readItems fuel
        (item.print depth ++ (Value.printItems depth rest ++ (newline d ++ ']' :: t))) =
      some (item :: rest, t)
  | item, [], depth, fuel + 1, d, t, hitem, _, hf => by
    rw [Value.printItems, List.append_nil] at hf
    rw [Value.printItems, readItems, List.nil_append,
      readValue_print item depth fuel _ hitem (follows_newline d _) (by omega)]
    simp only
    rw [skipSpace_newline, skipSpace_cons_of_not rfl]
    rfl
  | item, item' :: rest, depth, fuel + 1, d, t, hitem, hrest, hf => by
    have ht := follows_printItems depth (item' :: rest) (follows_newline d (']' :: t))
    simp only [List.length_append, Value.printItems, List.length_cons] at hf
    rw [readItems, readValue_print item depth fuel _ hitem ht (by omega)]
    simp only [Value.printItems, List.cons_append, List.append_assoc]
    rw [skipSpace_cons_of_not rfl]
    simp only
    rw [readItems_newline, readItems_print item' rest depth fuel d t hrest.1 hrest.2
      (by rw [List.length_append]; omega)]
    rfl
termination_by structural _ _ _ fuel => fuel

/-- Printed members are read up to the closing brace. -/
theorem readMembers_print : ∀ (key : String) (value : Value) (rest : List (String × Value))
    (depth fuel d : Nat) (t : List Char), value.Legible → Value.LegibleMembers rest →
    2 * (value.print depth ++ Value.printMembers depth rest).length + 1 < fuel →
    readMembers fuel (quote key ++ (':' :: ' ' ::
        (value.print depth ++ (Value.printMembers depth rest ++ (newline d ++ '}' :: t))))) =
      some (((key, value) :: rest).map fun m => (some m.1, m.2), t)
  | key, value, [], depth, fuel + 1, d, t, hvalue, _, hf => by
    rw [Value.printMembers, List.append_nil] at hf
    rw [readMembers_quote, Value.printMembers, List.nil_append,
      readValue_print value depth fuel _ hvalue (follows_newline d _) (by omega)]
    simp only
    rw [skipSpace_newline, skipSpace_cons_of_not rfl]
    rfl
  | key, value, (key', value') :: rest, depth, fuel + 1, d, t, hvalue, hrest, hf => by
    have ht := follows_printMembers depth ((key', value') :: rest) (follows_newline d ('}' :: t))
    simp only [List.length_append, Value.printMembers, List.length_cons] at hf
    rw [readMembers_quote, readValue_print value depth fuel _ hvalue ht (by omega)]
    simp only [Value.printMembers, List.cons_append, List.append_assoc, List.nil_append]
    rw [skipSpace_cons_of_not rfl]
    simp only
    rw [readMembers_newline, readMembers_print key' value' rest depth fuel d t hrest.1 hrest.2
      (by rw [List.length_append]; omega)]
    rfl
termination_by structural _ _ _ _ fuel => fuel

end

/-- **The whole text of a value is read as the value.** -/
theorem read_pretty {v : Value} (h : v.Legible) : read v.pretty = some v := by
  have hchars : v.pretty.toList = v.print 0 := by simp [Value.pretty]
  have hread := readValue_print v 0 (2 * (v.print 0).length + 2) [] h follows_nil (by omega)
  rw [List.append_nil] at hread
  rw [read, hchars, hread]
  rfl

end StaticSite.Json
