import BuildCondition.Json
import BuildCondition.Proofs.Text.Cut
import BuildCondition.Proofs.Text.Digit
import Mathlib.Tactic.SplitIfs

/-!
# Reading what is written as JSON

Strings are written character by character and read so (§1), numbers digit by digit (§2). Null,
strings and numbers are read as themselves wherever they stand (§3), and whatever is can be put into
an object, under any key (§4).
-/

namespace BuildCondition.Json

open BuildCondition.Text

variable {c e : Char} {n : Nat} {done rest : List Char}

/-! ## §1  Strings -/

theorem readStringOnto_letter (h : letterEscape? c = some e) :
    readStringOnto done ('\\' :: c :: rest) = readStringOnto (e :: done) rest := by
  have hc : c ≠ 'u' := by
    rintro rfl
    cases h
  rw [readStringOnto, h]
  · exact fun _ _ _ _ _ _ _ _ _ hu => absurd hu hc
  · exact fun _ _ _ _ _ hu => absurd hu hc

/-- The code of a character that is no surrogate is read alike whatever follows it. -/
theorem readStringOnto_code {a b c d : Char} (h : hexFour? a b c d = some n) (hn : n < 0xD800) :
    readStringOnto done ('\\' :: 'u' :: a :: b :: c :: d :: rest) =
      readStringOnto (Char.ofNat n :: done) rest := by
  by_cases hcode : ∃ e f g i cs, rest = '\\' :: 'u' :: e :: f :: g :: i :: cs
  · obtain ⟨e, f, g, i, cs, rfl⟩ := hcode
    rw [readStringOnto, h]
    simp only []
    rw [if_neg (by omega), if_neg (by omega)]
  · rw [readStringOnto, h]
    · exact if_neg (by omega)
    · exact fun e f g i cs heq => hcode ⟨e, f, g, i, cs, heq⟩

theorem readStringOnto_plain (hquote : c ≠ '"') (hescape : c ≠ '\\') (hc : 32 ≤ c.toNat) :
    readStringOnto done (c :: rest) = readStringOnto (c :: done) rest := by
  rw [readStringOnto]
  · exact if_neg (by omega)
  · exact hquote
  · exact fun _ _ _ _ _ _ _ _ _ heq => absurd heq hescape
  · exact fun _ _ _ _ _ heq => absurd heq hescape
  · exact fun _ _ heq => absurd heq hescape

/-- A control character is written by its code. -/
theorem hexFour?_control (h : n < 32) :
    hexFour? '0' '0' (hexDigit (n / 16)) (hexDigit (n % 16)) = some n := by
  have hall : ∀ n < 32, hexFour? '0' '0' (hexDigit (n / 16)) (hexDigit (n % 16)) = some n := by
    decide
  exact hall n h

/-- Each character is read back from the way it is written. -/
theorem readStringOnto_writeChar (done : List Char) (c : Char) (rest : List Char) :
    readStringOnto done (writeChar c ++ rest) = readStringOnto (c :: done) rest := by
  unfold writeChar
  split_ifs with hquote hescape hb hf hn hr ht hcontrol
  · rw [hquote]
    exact readStringOnto_letter rfl
  · rw [hescape]
    exact readStringOnto_letter rfl
  · rw [hb]
    exact readStringOnto_letter rfl
  · rw [hf]
    exact readStringOnto_letter rfl
  · rw [hn]
    exact readStringOnto_letter rfl
  · rw [hr]
    exact readStringOnto_letter rfl
  · rw [ht]
    exact readStringOnto_letter rfl
  · have hread :=
      @readStringOnto_code c.toNat done rest _ _ _ _ (hexFour?_control hcontrol) (by omega)
    rwa [Char.ofNat_toNat] at hread
  · exact readStringOnto_plain hquote hescape (by omega)

theorem readStringOnto_flatMap (done cs rest : List Char) :
    readStringOnto done (cs.flatMap writeChar ++ '"' :: rest) =
      some (String.ofList (done.reverse ++ cs), rest) := by
  induction cs generalizing done with
  | nil =>
      rw [List.append_nil]
      exact readStringOnto.eq_2 done rest
  | cons c cs ih =>
      rw [List.flatMap_cons, List.append_assoc, readStringOnto_writeChar, ih, List.reverse_cons,
        List.append_assoc]
      rfl

/-- **A string is read back as it is written**, with whatever characters in it. -/
theorem readStringOnto_writeString (s : String) (rest : List Char) :
    ∃ cs, (writeString s).toList ++ rest = '"' :: cs ∧ readStringOnto [] cs = some (s, rest) := by
  refine ⟨s.toList.flatMap writeChar ++ '"' :: rest, by simp [writeString], ?_⟩
  rw [readStringOnto_flatMap, List.reverse_nil, List.nil_append, String.ofList_toList]

/-! ## §2  Numbers -/

/-- What may go on with a number. -/
def goesOn (c : Char) : Bool :=
  c.isDigit || c == '.' || c == 'e' || c == 'E'

theorem exists_toDigits (n : Nat) : ∃ d ds, Nat.toDigits 10 n = d :: ds ∧ d.isDigit = true := by
  obtain ⟨d, ds, hds⟩ := List.exists_cons_of_ne_nil (Nat.toDigits_ne_nil (n := n) (b := 10))
  exact ⟨d, ds, hds, isDigit_toDigits n d (hds ▸ List.mem_cons_self)⟩

/-- A number does not start with a zero, unless it is zero. -/
theorem readWhole_toDigits (hrest : Stops goesOn rest) (n : Nat) :
    readWhole (Nat.toDigits 10 n ++ rest) = some (n, rest) := by
  have hstops : Stops Char.isDigit rest := by
    intro c hc
    have hnone := hrest c hc
    simp only [goesOn, Bool.or_eq_false_iff] at hnone
    exact hnone.1.1.1
  have hdigits : readDigits (Nat.toDigits 10 n ++ rest) = some (Nat.toDigits 10 n, rest) := by
    rw [readDigits, takeWhile_append_stops (isDigit_toDigits n) hstops,
      dropWhile_append_stops (isDigit_toDigits n) hstops]
    simp
  by_cases hzero : (Nat.toDigits 10 n).head? = some '0'
  · obtain rfl := head?_toDigits hzero
    rfl
  · unfold readWhole
    split
    · rename_i cs heq
      obtain ⟨d, ds, hds, _⟩ := exists_toDigits n
      rw [hds, List.cons_append, List.cons.injEq] at heq
      rw [hds, heq.1] at hzero
      exact absurd rfl hzero
    · rw [hdigits]
      simp [decimal_toDigits]

theorem readFraction_of_stops (hrest : Stops goesOn rest) :
    readFraction rest = some (false, rest) := by
  unfold readFraction
  split
  · exact absurd hrest.head (by decide)
  · rfl

theorem readExponent_of_stops (hrest : Stops goesOn rest) :
    readExponent rest = some (false, rest) := by
  unfold readExponent
  split
  · exact absurd hrest.head (by decide)
  · exact absurd hrest.head (by decide)
  · rfl

/-- **A number is read back from its digits.** -/
theorem readNumber_toDigits (hrest : Stops goesOn rest) (n : Nat) :
    readNumber (Nat.toDigits 10 n ++ rest) = some (natural n, rest) := by
  unfold readNumber
  split
  · rename_i cs heq
    obtain ⟨d, ds, hds, hd⟩ := exists_toDigits n
    rw [hds, List.cons_append, List.cons.injEq] at heq
    rw [heq.1] at hd
    exact absurd hd (by decide)
  · simp [readMagnitude, readWhole_toDigits hrest, readFraction_of_stops hrest,
      readExponent_of_stops hrest]

/-! ## §3  Values -/

section Values

variable {size levels : Nat}

/-- Wherever the text stands before something that does not go on with a number, it is read as the
value. -/
def ReadsAs (size levels : Nat) (text : List Char) (value : Json) : Prop :=
  ∀ rest, Stops goesOn rest → readValue size levels (skipSpace (text ++ rest)) = some (value, rest)

theorem skipSpace_cons (h : isSpace c = false) (cs : List Char) : skipSpace (c :: cs) = c :: cs :=
  List.dropWhile_cons_of_neg (by rw [h]; decide)

theorem readsAs_null : ReadsAs size (levels + 1) "null".toList null := by
  intro rest _
  rfl

theorem readsAs_string (s : String) :
    ReadsAs size (levels + 1) (writeString s).toList (string s) := by
  intro rest _
  obtain ⟨cs, hcs, hread⟩ := readStringOnto_writeString s rest
  rw [hcs, skipSpace_cons (by decide), readValue, hread]
  rfl

theorem isSpace_of_isDigit (h : c.isDigit = true) : isSpace c = false := by
  rw [← Bool.not_eq_true]
  intro hspace
  simp only [isSpace, Bool.or_eq_true, beq_iff_eq, or_assoc] at hspace
  rcases hspace with rfl | rfl | rfl | rfl <;> exact absurd h (by decide)

/-- What starts with a digit starts like no other value. -/
theorem readValue_digit (hd : c.isDigit = true) (cs : List Char) :
    readValue size (levels + 1) (c :: cs) = readNumber (c :: cs) := by
  rw [readValue]
  all_goals
    intro _ heq
    rw [(List.cons.inj heq).1] at hd
    exact absurd hd (by decide)

theorem readsAs_natural (n : Nat) : ReadsAs size (levels + 1) (toString n).toList (natural n) := by
  intro rest hrest
  obtain ⟨d, ds, hds, hd⟩ := exists_toDigits n
  have hnumber := readNumber_toDigits hrest n
  rw [Nat.toString_eq_repr, Nat.toList_repr]
  rw [hds, List.cons_append] at hnumber ⊢
  rw [skipSpace_cons (isSpace_of_isDigit hd), readValue_digit hd, hnumber]

end Values

/-! ## §4  Objects -/

/-- A member of an object: its key, the text that is written for its value, and the value. -/
structure WrittenMember where
  key : String
  text : List Char
  value : Json

namespace WrittenMember

variable {size levels : Nat} {m : WrittenMember} {ms : List WrittenMember}

/-- The text of a member. -/
def chars (m : WrittenMember) : List Char :=
  (writeString m.key).toList ++ ':' :: m.text

/-- What a member is read as. -/
def entry (m : WrittenMember) : String × Json :=
  (m.key, m.value)

/-- The text of an object with some members. -/
def objectChars (ms : List WrittenMember) : List Char :=
  '\x7b' :: ([','].intercalate (ms.map chars) ++ ['\x7d'])

theorem stops_comma (rest : List Char) : Stops goesOn (',' :: rest) :=
  stops_cons (by decide)

theorem stops_brace (rest : List Char) : Stops goesOn ('\x7d' :: rest) :=
  stops_cons (by decide)

theorem readMember_chars (h : ReadsAs size levels m.text m.value) (hrest : Stops goesOn rest) :
    readMember (readValue size levels) (skipSpace (m.chars ++ rest)) = some (m.entry, rest) := by
  have hvalue := h rest hrest
  obtain ⟨cs, hcs, hread⟩ := readStringOnto_writeString m.key (':' :: (m.text ++ rest))
  rw [chars, List.append_assoc, List.cons_append, hcs, skipSpace_cons (by decide)]
  simp only [readMember, hread, Option.bind_eq_bind, Option.bind_some]
  rw [skipSpace_cons (by decide)]
  simp only [hvalue, Option.map_some, entry]

/-- The members of an object are read one after the other. -/
theorem readMembers_chars {n : Nat} (hne : ms ≠ []) (hn : ms.length ≤ n)
    (h : ∀ m ∈ ms, ReadsAs size levels m.text m.value) (done : List (String × Json))
    (rest : List Char) :
    readMembers (readValue size levels) n done
        ([','].intercalate (ms.map chars) ++ '\x7d' :: rest) =
      some (done.reverse ++ ms.map entry, rest) := by
  induction ms generalizing n done with
  | nil => exact absurd rfl hne
  | cons m ms ih =>
      obtain ⟨n, rfl⟩ := Nat.exists_eq_add_one.mpr (Nat.lt_of_lt_of_le (Nat.succ_pos _) hn)
      obtain ⟨hm, hms⟩ := List.forall_mem_cons.mp h
      rw [readMembers]
      cases ms with
      | nil =>
          have hread := readMember_chars hm (stops_brace rest)
          rw [List.map_singleton, List.intercalate_singleton, hread]
          simp only [skipSpace_cons (show isSpace '\x7d' = false by decide)]
          simp
      | cons m' ms =>
          have hread := readMember_chars hm
            (stops_comma ([','].intercalate ((m' :: ms).map chars) ++ '\x7d' :: rest))
          have hmore :=
            ih (List.cons_ne_nil m' ms) (Nat.le_of_succ_le_succ hn) hms (m.entry :: done)
          rw [List.map_cons, List.map_cons, List.intercalate_cons_cons, List.append_assoc,
            List.append_assoc, ← List.map_cons, List.singleton_append, hread]
          simp only [skipSpace_cons (show isSpace ',' = false by decide)]
          rw [hmore]
          simp

/-- The first member starts with the quote of its key. -/
theorem exists_intercalate_chars (hne : ms ≠ []) :
    ∃ cs, [','].intercalate (ms.map chars) = '"' :: cs := by
  obtain ⟨m, ms, rfl⟩ := List.exists_cons_of_ne_nil hne
  cases ms with
  | nil =>
      rw [List.map_singleton, List.intercalate_singleton, chars, writeString, String.toList_ofList]
      exact ⟨_, rfl⟩
  | cons m' ms =>
      rw [List.map_cons, List.map_cons, List.intercalate_cons_cons, chars, writeString,
        String.toList_ofList]
      exact ⟨_, rfl⟩

/-- **An object is read back from its members.** -/
theorem readsAs_objectChars (hne : ms ≠ []) (hsize : ms.length ≤ size)
    (h : ∀ m ∈ ms, ReadsAs size levels m.text m.value) :
    ReadsAs size (levels + 1) (objectChars ms) (object (ms.map entry)) := by
  intro rest _
  have hmembers := readMembers_chars hne hsize h [] rest
  obtain ⟨cs, hcs⟩ := exists_intercalate_chars hne
  rw [hcs, List.cons_append] at hmembers
  rw [objectChars, List.cons_append, skipSpace_cons (by decide), readValue, hcs, List.append_assoc,
    List.singleton_append, List.cons_append, skipSpace_cons (by decide)]
  show (readMembers (readValue size levels) size [] ('"' :: (cs ++ '\x7d' :: rest))).map
    (fun x => (object x.1, x.2)) = _
  rw [hmembers]
  rfl

/-- An object has no more members than characters. -/
theorem length_le_objectChars (ms : List WrittenMember) : ms.length ≤ (objectChars ms).length := by
  have hmembers : ms.length ≤ ([','].intercalate (ms.map chars)).length := by
    induction ms with
    | nil => exact Nat.zero_le _
    | cons m ms ih =>
        have hm : 1 ≤ m.chars.length := by
          rw [chars, List.length_append, List.length_cons]
          omega
        cases ms with
        | nil => simpa using hm
        | cons m' ms =>
            rw [List.map_cons, List.map_cons, List.intercalate_cons_cons, List.length_append,
              List.length_append, ← List.map_cons, List.length_cons]
            omega
  rw [objectChars, List.length_cons, List.length_append]
  omega

end WrittenMember

/-- A text that is read as a value wherever it stands is read as the value on its own. -/
theorem read?_of_readsAs {s : String} {value : Json}
    (h : ReadsAs (skipSpace s.toList).length maxLevels s.toList value) : read? s = some value := by
  have hread := h [] stops_nil
  rw [List.append_nil] at hread
  simp only [read?, hread]
  rfl

/-- **An object of members that are read back is read back itself.** -/
theorem read?_objectChars {ms : List WrittenMember} (hne : ms ≠ [])
    (h : ∀ m ∈ ms, ∀ size levels, ReadsAs size (levels + 1) m.text m.value) :
    read? (String.ofList (WrittenMember.objectChars ms)) =
      some (object (ms.map WrittenMember.entry)) := by
  have hstart : skipSpace (WrittenMember.objectChars ms) = WrittenMember.objectChars ms :=
    skipSpace_cons (by decide) _
  refine read?_of_readsAs ?_
  rw [String.toList_ofList, hstart]
  exact WrittenMember.readsAs_objectChars hne (WrittenMember.length_le_objectChars ms)
    fun m hm => h m hm _ _

end BuildCondition.Json
