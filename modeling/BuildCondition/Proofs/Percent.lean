import BuildCondition.Percent
import BuildCondition.Proofs.Text.Utf8

/-!
# Escaping and unescaping

Escaped text can be unescaped wherever it stands: an escape is three characters, none of them can be
part of an escape that starts before, and text without percent signs says what it says (§1). What
has been escaped has no character left that means something in a build file, except the percent
signs that start its escapes (§2). Nothing is lost on the way (§3).
-/

namespace BuildCondition.Percent

open BuildCondition.Text

/-! ## §1  Unescaping -/

section Octets

variable {c a b : Char} {cs : List Char} {high low : Nat}

theorem octetsOnto_pass (done : List Nat)
    (h : ∀ a b more, c = '%' → cs = a :: b :: more → False) :
    octetsOnto done (c :: cs) = octetsOnto ((utf8 c).reverseAux done) cs := by
  rw [octetsOnto]
  exact h

theorem octetsOnto_escape (done : List Nat) (ha : hexValue? a = some high)
    (hb : hexValue? b = some low) :
    octetsOnto done ('%' :: a :: b :: cs) = octetsOnto ((16 * high + low) :: done) cs := by
  rw [octetsOnto, ha, hb]

theorem octetsOnto_append (done done' : List Nat) (cs : List Char) :
    octetsOnto (done ++ done') cs = done'.reverse ++ octetsOnto done cs := by
  fun_induction octetsOnto done cs with
  | case1 done => simp [octetsOnto]
  | case2 done a b cs low high hb ha ih =>
      rw [octetsOnto_escape _ ha hb]
      exact ih
  | case3 done a b cs hnot ih =>
      rw [octetsOnto]
      split
      · rename_i high low hb ha
        exact (hnot high low hb ha).elim
      · exact ih
  | case4 done c cs hnot ih =>
      rw [octetsOnto_pass _ hnot, ← ih, List.reverseAux_eq, List.reverseAux_eq, List.append_assoc]

/-- A character that starts no escape stands for its own octets. -/
theorem octets_of_ne (h : c ≠ '%') : octets (c :: cs) = utf8 c ++ octets cs := by
  have happend := octetsOnto_append [] (utf8 c).reverse cs
  rw [List.nil_append, List.reverse_reverse] at happend
  rw [octets, octetsOnto_pass [] fun _ _ _ hc => absurd hc h, List.reverseAux_eq, List.append_nil]
  exact happend

theorem octets_escape (ha : hexValue? a = some high) (hb : hexValue? b = some low) :
    octets ('%' :: a :: b :: cs) = (16 * high + low) :: octets cs := by
  rw [octets, octetsOnto_escape [] ha hb]
  exact octetsOnto_append [] [16 * high + low] cs

/-- A special character is one octet, which two digits write. -/
theorem special_octet : ∀ c ∈ special, utf8 c = [c.toNat] ∧
    hexValue? (hexDigit (c.toNat / 16)) = some (c.toNat / 16) ∧
    hexValue? (hexDigit (c.toNat % 16)) = some (c.toNat % 16) := by
  have hall : special.all (fun c => utf8 c == [c.toNat] &&
      (hexValue? (hexDigit (c.toNat / 16)) == some (c.toNat / 16) &&
        hexValue? (hexDigit (c.toNat % 16)) == some (c.toNat % 16))) = true := by
    decide
  intro c hc
  have hc := List.all_eq_true.mp hall c hc
  simpa only [Bool.and_eq_true, beq_iff_eq] using hc

/-- An escaped character stands for its octets. -/
theorem octets_escapeChar (c : Char) (cs : List Char) :
    octets (escapeChar c ++ cs) = utf8 c ++ octets cs := by
  unfold escapeChar
  split
  · rename_i hspecial
    obtain ⟨hutf8, hhigh, hlow⟩ := special_octet c (List.contains_iff_mem.mp hspecial)
    rw [hutf8, List.cons_append, List.cons_append, List.cons_append, List.nil_append,
      octets_escape hhigh hlow, Nat.div_add_mod]
    rfl
  · rename_i hspecial
    refine octets_of_ne ?_
    rintro rfl
    exact hspecial rfl

theorem octets_escape_append (cs ds : List Char) :
    octets (escape cs ++ ds) = cs.flatMap utf8 ++ octets ds := by
  induction cs with
  | nil => rfl
  | cons c cs ih =>
      rw [escape, List.flatMap_cons, List.append_assoc, octets_escapeChar, ← escape, ih,
        List.flatMap_cons, List.append_assoc]

end Octets

/-- Unescaping undoes escaping, also in front of other text. -/
theorem unescape_escape_append (cs ds : List Char) :
    unescape (escape cs ++ ds) = cs ++ unescape ds := by
  rw [unescape, octets_escape_append, decodeUtf8_append]
  rfl

theorem unescape_escape (cs : List Char) : unescape (escape cs) = cs := by
  have happend := unescape_escape_append cs []
  rw [List.append_nil] at happend
  rw [happend]
  exact List.append_nil cs

theorem escape_append (cs ds : List Char) : escape (cs ++ ds) = escape cs ++ escape ds :=
  List.flatMap_append

theorem unescape_of_not_mem {cs : List Char} (h : '%' ∉ cs) : unescape cs = cs := by
  have hoctets : octets cs = cs.flatMap utf8 := by
    induction cs with
    | nil => rfl
    | cons c cs ih =>
        have hc : c ≠ '%' := fun hc => h (hc ▸ List.mem_cons_self)
        rw [octets_of_ne hc, ih fun hcs => h (List.mem_cons_of_mem c hcs), List.flatMap_cons]
  have hread := decodeUtf8_append cs []
  rw [List.append_nil] at hread
  rw [unescape, hoctets, hread]
  exact List.append_nil cs

/-! ## §2  Escaped text -/

theorem hexDigit_not_special : ∀ c ∈ special,
    hexDigit (c.toNat / 16) ∉ special ∧ hexDigit (c.toNat % 16) ∉ special := by
  have hall : special.all (fun c => !special.contains (hexDigit (c.toNat / 16)) &&
      !special.contains (hexDigit (c.toNat % 16))) = true := by
    decide
  intro c hc
  have hc := List.all_eq_true.mp hall c hc
  simpa only [Bool.and_eq_true, Bool.not_eq_true', List.contains_eq_mem, decide_eq_false_iff_not]
    using hc

/-- A character of an escape is the percent sign or a digit, and every other character is not
special. -/
theorem mem_escape {c : Char} {cs : List Char} (h : c ∈ escape cs) : c = '%' ∨ c ∉ special := by
  obtain ⟨d, _, hd⟩ := List.mem_flatMap.mp h
  unfold escapeChar at hd
  split at hd
  · rename_i hspecial
    have hmem : d ∈ special := List.contains_iff_mem.mp hspecial
    obtain ⟨hhigh, hlow⟩ := hexDigit_not_special d hmem
    rcases List.mem_cons.mp hd with rfl | hd
    · exact .inl rfl
    · rcases List.mem_cons.mp hd with rfl | hd
      · exact .inr hhigh
      · rw [List.mem_singleton.mp hd]
        exact .inr hlow
  · rename_i hspecial
    rw [List.mem_singleton.mp hd]
    exact .inr fun hc => hspecial (List.contains_iff_mem.mpr hc)

/-- Of the special characters only the percent sign occurs in escaped text. -/
theorem not_mem_escape {c : Char} (hspecial : c ∈ special) (hc : c ≠ '%') (cs : List Char) :
    c ∉ escape cs := by
  intro h
  rcases mem_escape h with h | h
  · exact hc h
  · exact h hspecial

/-- Behind every percent sign of a text stand two hexadecimal digits. -/
def StartsEscapes (cs : List Char) : Prop :=
  ∀ before after, cs = before ++ '%' :: after →
    ∃ a b rest, after = a :: b :: rest ∧ isHexDigit a = true ∧ isHexDigit b = true

section StartsEscapes

variable {c a b : Char} {cs : List Char}

theorem startsEscapes_nil : StartsEscapes [] := by
  intro before after heq
  simp at heq

theorem StartsEscapes.cons (h : StartsEscapes cs) (hc : c ≠ '%') : StartsEscapes (c :: cs) := by
  rintro (_ | ⟨d, before⟩) after heq
  · exact absurd (List.cons.inj heq).1 hc
  · exact h before after (List.cons.inj heq).2

theorem StartsEscapes.escape (h : StartsEscapes cs) (ha : isHexDigit a = true)
    (hb : isHexDigit b = true) : StartsEscapes ('%' :: a :: b :: cs) := by
  -- no digit is a percent sign, so that the next one stands behind the escape
  have hne : ∀ d, isHexDigit d = true → d ≠ '%' := by
    rintro d hd rfl
    exact absurd hd (by decide)
  rintro (_ | ⟨d, before⟩) after heq
  · exact ⟨a, b, cs, (List.cons.inj heq).2.symm, ha, hb⟩
  · exact (h.cons (hne b hb)).cons (hne a ha) before after (List.cons.inj heq).2

/-- A percent sign in escaped text starts an escape. -/
theorem startsEscapes_escape (cs : List Char) : StartsEscapes (escape cs) := by
  induction cs with
  | nil => exact startsEscapes_nil
  | cons c cs ih =>
      rw [escape, List.flatMap_cons, ← escape, escapeChar]
      split
      · rename_i hspecial
        obtain ⟨_, hhigh, hlow⟩ := special_octet c (List.contains_iff_mem.mp hspecial)
        exact ih.escape (by simp [isHexDigit, hhigh]) (by simp [isHexDigit, hlow])
      · rename_i hspecial
        refine ih.cons ?_
        rintro rfl
        exact hspecial rfl

end StartsEscapes

/-! ## §3  There and back -/

/-- **Unescaping undoes escaping**, whatever stands behind the escaped text. Escaping can be done
part by part, and of the characters that mean something in a build file it leaves only percent signs
that start escapes. -/
theorem escape_undone (cs ds : List Char) :
    unescape (escape cs ++ ds) = cs ++ unescape ds ∧
      unescape (escape cs) = cs ∧
      escape (cs ++ ds) = escape cs ++ escape ds ∧
      (∀ c ∈ ['*', '?', '@', '$', '(', ')', ';', '\''], c ∉ escape cs) ∧
      StartsEscapes (escape cs) := by
  refine ⟨unescape_escape_append cs ds, unescape_escape cs, escape_append cs ds, ?_,
    startsEscapes_escape cs⟩
  intro c hc
  have hspecial : c ∈ special := List.mem_cons_of_mem _ hc
  have hne : c ≠ '%' := by
    rintro rfl
    simp at hc
  exact not_mem_escape hspecial hne cs

/-- An octet that could go on with a character does not reach into the text before it. -/
example : unescape (escape ['é'] ++ ['%', 'a', '9']) = ['é', replacement] := by decide

end BuildCondition.Percent
