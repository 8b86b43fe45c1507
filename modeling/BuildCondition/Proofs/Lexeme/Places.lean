import BuildCondition.Proofs.Lexeme.Marking

/-!
# Reading by places

A text may be kept whole and read by places. A character is then taken from a place, and a slice
from one place up to another, and whoever reaches past the end of the text has no result (§1). To
find a lexeme, the places are gone through until it ends (§2). Such a walk comes to the same place
as reading the characters one after the other, and no place is out of range on the way (§3).
-/

namespace BuildCondition

open BuildCondition.Text

/-- What is told of a token: whether it was quoted, and whether there is something to be filled in,
besides its kind, its text and where it starts. -/
structure TokenRecord where
  kind : String
  text : String
  offset : Nat
  isQuoted : Bool
  isTemplate : Bool
  deriving DecidableEq

def Terminal.record (t : Terminal) : TokenRecord :=
  ⟨t.kind, t.text, t.offset, t.isQuoted, t.isTemplate⟩

namespace Places

/-! ## §1  Characters and slices -/

section

variable (text : List Char)

/-- The characters from one place up to another, if the text has these places in this order. -/
def slice? (start stop : Nat) : Option (List Char) :=
  if start ≤ stop ∧ stop ≤ text.length then some ((text.take stop).drop start) else none

/-- The character at a place as messages tell it, or that there is none. -/
def describeAt (i : Nat) : String :=
  match text[i]? with
  | some c => String.singleton c
  | none => Terminal.endName

/-- Where reading goes on, and the token that was read or why none was. -/
abbrev Outcome := Nat × Except Failure TokenRecord

/-- A token that is a slice of the text, behind which reading goes on. -/
def tokenBetween (kind : String) (start stop : Nat) : Option Outcome := do
  let written ← slice? text start stop
  some (stop, .ok ⟨kind, String.ofList written, start, false, false⟩)

/-! ## §2  Walks -/

/-- The place behind a run of accepted characters. Looking for a character where there may be none
is not reaching for it. -/
def skipWhile (p : Char → Bool) (i : Nat) : Nat :=
  match _h : text[i]? with
  | some c => if p c then skipWhile p (i + 1) else i
  | none => i
termination_by text.length - i
decreasing_by
  have hlt := (List.getElem?_eq_some_iff.mp _h).1
  omega

/-- The first place of a mark, or that behind the text. -/
def seek (mark : Char) (i : Nat) : Option Nat :=
  if i < text.length then do
    let c ← text[i]?
    if c = mark then some i else seek mark (i + 1)
  else some i
termination_by text.length - i

/-- A level of a property reference, with the place of the last blank in it. -/
structure Level where
  parens : Nat
  blank : Option Nat
  other : Bool

namespace Level

def fresh : Level := ⟨0, none, false⟩

def note (level : Level) (i : Nat) (c : Char) : Level :=
  if c = '(' then { level with parens := level.parens + 1 }
  else if c = ')' then { level with parens := level.parens - 1 }
  else if isBlank c then { level with blank := some i }
  else if !isNameChar c then { level with other := true }
  else level

/-- A blank that may not be there. -/
def strayBlank? (level : Level) : Option Nat :=
  if level.other then none else level.blank

end Level

/-- The place of the parenthesis that ends a property reference, or the length of the text; else the
place of a blank that may not be there. The innermost of the levels comes first. -/
def propertyEnd (levels : List Level) (i : Nat) : Option (Except Nat Nat) :=
  if i < text.length then do
    let c ← text[i]?
    match levels with
    | [] => some (.ok text.length)
    | level :: outer =>
        let level := level.note i c
        if c = '$' ∧ text[i + 1]? = some '(' then
          propertyEnd (Level.fresh :: level :: outer) (i + 1)
        else if level.parens = 0 then
          match level.strayBlank? with
          | some blank => some (.error blank)
          | none => if outer.isEmpty then some (.ok i) else propertyEnd outer (i + 1)
        else propertyEnd (level :: outer) (i + 1)
  else some (.ok text.length)
termination_by text.length - i

/-- The place of the parenthesis that ends an item list, or the length of the text, and whether a
quote is open there. -/
def itemsEnd (inQuote : Bool) (parens i : Nat) : Option (Bool × Nat) :=
  if i < text.length then do
    let c ← text[i]?
    if c = '\'' then itemsEnd (!inQuote) parens (i + 1)
    else if c = '(' ∧ !inQuote then itemsEnd inQuote (parens + 1) (i + 1)
    else if c = ')' ∧ !inQuote then
      if parens = 0 then some (inQuote, i) else itemsEnd inQuote (parens - 1) (i + 1)
    else itemsEnd inQuote parens (i + 1)
  else some (inQuote, i)
termination_by text.length - i

variable {text} in
theorem le_of_seek {mark : Char} {i j : Nat} (h : seek text mark i = some j) : i ≤ j := by
  fun_induction seek text mark i with
  | case1 i hlt ih =>
      obtain ⟨c, _, hc⟩ := Option.bind_eq_some_iff.mp h
      split at hc
      · cases hc
        exact Nat.le_refl _
      · exact Nat.le_of_succ_le (ih hc)
  | case2 i hlt =>
      cases h
      exact Nat.le_refl _

variable {text} in
theorem le_skipWhile (p : Char → Bool) (i : Nat) : i ≤ skipWhile text p i := by
  fun_induction skipWhile text p i with
  | case1 i c _ _ ih => exact Nat.le_of_succ_le ih
  | case2 | case3 => exact Nat.le_refl _

/-- From behind the parenthesis of an item list in a quoted text on, the place of the one that
closes it, or one behind the text. Quotes in it are passed over as a whole. -/
def embeddedEnd (i : Nat) : Option Nat :=
  if i < text.length then do
    let c ← text[i]?
    if c = ')' then some i
    else if c = '\'' then
      match _h : seek text '\'' (i + 1) with
      | some j => embeddedEnd (j + 1)
      | none => none
    else embeddedEnd (i + 1)
  else some i
termination_by text.length - i
decreasing_by
  all_goals try have hle := le_of_seek _h
  all_goals omega

variable {text} in
theorem le_of_embeddedEnd {i j : Nat} (h : embeddedEnd text i = some j) : i ≤ j := by
  fun_induction embeddedEnd text i with
  | case1 i hlt ihQuote ih =>
      obtain ⟨c, _, hc⟩ := Option.bind_eq_some_iff.mp h
      split at hc
      · cases hc
        exact Nat.le_refl _
      · split at hc
        · split at hc
          · rename_i k hseek
            have hle := le_of_seek hseek
            have hbehind := ihQuote k hseek hc
            omega
          · cases hc
        · exact Nat.le_of_succ_le (ih hc)
  | case2 i hlt =>
      cases h
      exact Nat.le_refl _

/-- The place of the quote that ends a quoted text, or one behind the text, and whether there is
something to be filled in; or else why the quoted text is refused. -/
def quotedEnd (mode : Mode) (marked : Bool) (i : Nat) : Option (Except Failure (Nat × Bool)) :=
  if i < text.length then do
    let c ← text[i]?
    if c = '\'' then some (.ok (i, marked))
    else if c = '@' ∧ text[i + 1]? = some '(' then
      if mode = .propertiesOnly then some (.error (Failure.bareAt .itemsNotAllowed (i + 1)))
      else
        match _h : embeddedEnd text (i + 2) with
        | some j => quotedEnd mode true (min (j + 1) text.length)
        | none => none
    else if c = '%' ∧ text[i + 1]? = some '(' ∧ mode = .propertiesOnly then
      some (.error (Failure.bareAt .metadataNotAllowed (i + 1)))
    else
      quotedEnd mode (marked || c = '%' || (c = '$' && text[i + 1]? == some '(')) (i + 1)
  else some (.ok (i, marked))
termination_by text.length - i
decreasing_by
  all_goals try have hle := le_of_embeddedEnd _h
  all_goals omega

/-- The place behind the further parts of a dotted version. -/
def furtherEnd (i : Nat) : Nat :=
  if _h : text[i]? = some '.' ∧ text[i + 1]?.any Char.isDigit then
    furtherEnd (skipWhile text Char.isDigit (i + 1))
  else i
termination_by text.length - i
decreasing_by
  have hlt := (List.getElem?_eq_some_iff.mp _h.1).1
  have hle : i + 1 ≤ skipWhile text Char.isDigit (i + 1) := le_skipWhile _ _
  omega

end

/-! ## §3  The same walks -/

variable {text cs rest : List Char} {i start k : Nat} {c : Char} {mode : Mode}

theorem lt_of_drop_eq_cons (h : text.drop i = c :: cs) : i < text.length :=
  (List.getElem?_eq_some_iff.mp (of_drop_eq_cons h).1).1

theorem getElem?_add_of_drop (h : text.drop i = cs) (n : Nat) : text[i + n]? = cs[n]? := by
  rw [← h, List.getElem?_drop]

theorem drop_add_of_drop (h : text.drop i = cs ++ rest) : text.drop (i + cs.length) = rest := by
  rw [← List.drop_drop, h, List.drop_left]

theorem describeAt_eq (h : text.drop i = cs) : describeAt text i = describeHead cs := by
  have hchar := getElem?_add_of_drop h 0
  rw [Nat.add_zero] at hchar
  rw [describeAt, hchar]
  cases cs <;> rfl

/-- A slice that stands in the text is in range. -/
theorem slice?_eq {written : List Char} (h : text.drop i = written ++ rest)
    (hi : i ≤ text.length) : slice? text i (i + written.length) = some written := by
  have hlength := congrArg List.length h
  rw [List.length_drop, List.length_append] at hlength
  rw [slice?, if_pos ⟨Nat.le_add_right _ _, by omega⟩, List.drop_take, h, Nat.add_sub_cancel_left,
    List.take_left]

theorem skipWhile_eq (p : Char → Bool) (h : text.drop i = cs) :
    skipWhile text p i = i + (cs.takeWhile p).length := by
  induction cs generalizing i with
  | nil =>
      rw [skipWhile, List.getElem?_eq_none (List.drop_eq_nil_iff.mp h)]
      rfl
  | cons c cs ih =>
      obtain ⟨hc, hrest⟩ := of_drop_eq_cons h
      rw [skipWhile, hc]
      by_cases hp : p c = true
      · simp only [if_pos hp, List.takeWhile_cons_of_pos hp, List.length_cons, ih hrest]
        omega
      · simp only [if_neg hp, List.takeWhile_cons_of_neg hp, List.length_nil, Nat.add_zero]

theorem drop_skipWhile (p : Char → Bool) (h : text.drop i = cs) :
    text.drop (skipWhile text p i) = cs.dropWhile p := by
  rw [skipWhile_eq p h]
  exact drop_add_of_drop (h.trans List.takeWhile_append_dropWhile.symm)

theorem guarded_cons {α : Type} (h : text.drop i = c :: cs) (next : Char → Option α)
    (stop : Option α) : (if i < text.length then text[i]? >>= next else stop) = next c := by
  rw [if_pos (lt_of_drop_eq_cons h), (of_drop_eq_cons h).1]
  rfl

theorem guarded_nil {α : Type} (h : text.drop i = []) (next : Char → Option α)
    (stop : Option α) : (if i < text.length then text[i]? >>= next else stop) = stop :=
  if_neg (Nat.not_lt.mpr (List.drop_eq_nil_iff.mp h))

theorem seek_eq (mark : Char) (h : text.drop i = cs) :
    seek text mark i = some (i + (cs.takeWhile (· != mark)).length) := by
  induction cs generalizing i with
  | nil =>
      rw [seek, guarded_nil h]
      rfl
  | cons c cs ih =>
      rw [seek, guarded_cons h]
      by_cases hmark : c = mark
      · simp [hmark]
      · have hpass : (c != mark) = true := bne_iff_ne.mpr hmark
        rw [if_neg hmark, ih (of_drop_eq_cons h).2, List.takeWhile_cons, if_pos hpass,
          List.length_cons, Nat.add_assoc, Nat.add_comm 1]

theorem odd_succ (n : Nat) : decide ((n + 1) % 2 = 1) = !decide (n % 2 = 1) := by
  rcases Nat.mod_two_eq_zero_or_one n with h | h <;> simp [Nat.add_mod, h]

/-- The walk ends outside quotes at the parenthesis that reading finds. If there is none, the number
of quotes tells whether one of them is open. -/
theorem itemsEnd_eq {inQuote : Bool} {parens : Nat} (h : text.drop (i + k) = cs)
    (hi : i + k ≤ text.length) :
    itemsEnd text inQuote parens (i + k) =
      some (match Reference.closing? true inQuote parens k cs with
        | some m => (false, i + m)
        | none => (inQuote ^^ decide (cs.count '\'' % 2 = 1), text.length)) := by
  induction cs generalizing inQuote parens k with
  | nil =>
      have hend : i + k = text.length := Nat.le_antisymm hi (List.drop_eq_nil_iff.mp h)
      rw [itemsEnd, guarded_nil h]
      simp [Reference.closing?, hend]
  | cons c cs ih =>
      have hrest : text.drop (i + (k + 1)) = cs := (of_drop_eq_cons h).2
      have hlt : i + (k + 1) ≤ text.length := lt_of_drop_eq_cons h
      rw [itemsEnd, guarded_cons h]
      by_cases hquote : c = '\''
      · rw [if_pos hquote, Reference.closing?_quote ⟨rfl, hquote⟩, Nat.add_assoc, ih hrest hlt,
          hquote, List.count_cons_self, odd_succ, Bool.not_xor, Bool.xor_not]
      · have hcount : (c :: cs).count '\'' = cs.count '\'' := List.count_cons_of_ne hquote
        have hquote' : ¬(true = true ∧ c = '\'') := fun hboth => hquote hboth.2
        rw [if_neg hquote, hcount]
        by_cases hopen : c = '(' ∧ (!inQuote) = true
        · rw [if_pos hopen, Reference.closing?_open hquote' hopen, Nat.add_assoc, ih hrest hlt]
        · rw [if_neg hopen]
          by_cases hclose : c = ')' ∧ (!inQuote) = true
          · obtain ⟨rfl, hout⟩ := hclose
            rw [if_pos ⟨rfl, hout⟩, Reference.closing?_close hout]
            cases parens with
            | zero =>
                have hin : inQuote = false := by simpa using hout
                rw [if_pos rfl, hin]
            | succ parens =>
                rw [if_neg (Nat.succ_ne_zero parens), Nat.add_sub_cancel, Nat.add_assoc,
                  ih hrest hlt]
          · rw [if_neg hclose, Reference.closing?_pass hquote' hopen hclose, Nat.add_assoc,
              ih hrest hlt]

/-- The innermost level of a property reference before the character that comes next: a parenthesis
is open in it, or comes next. -/
def Opened (level : Lexeme.Level) (cs : List Char) : Prop :=
  0 < level.parens ∨ cs.head? = some '('

/-- A level that knows of its last blank only where it stands. -/
def levelAt (start : Nat) (level : Lexeme.Level) : Level :=
  ⟨level.parens, level.blank.map fun b => start + b.1, level.other⟩

/-- The blank that a level has seen stands in the text. -/
def SeesBlank (text : List Char) (start : Nat) (level : Lexeme.Level) : Prop :=
  ∀ b blank, level.blank = some (b, blank) → text[start + b]? = some blank

/-- A walk comes to the end of a property reference that reading comes to. -/
inductive PropertyAgrees (text : List Char) (start : Nat) :
    Except Nat Nat → Lexeme.PropertyEnd → Prop where
  | closed (m : Nat) : PropertyAgrees text start (.ok (start + m)) (.closed m)
  | stray {b : Nat} {c : Char} (hc : text[start + b]? = some c) :
      PropertyAgrees text start (.error (start + b)) (.stray b c)
  | missing : PropertyAgrees text start (.ok text.length) .missing

theorem seesBlank_fresh (text : List Char) (start : Nat) :
    SeesBlank text start Lexeme.Level.fresh := by
  intro b blank hb
  cases hb

theorem levelAt_note (level : Lexeme.Level) (c : Char) :
    (levelAt start level).note (start + k) c = levelAt start (level.note k c) := by
  unfold Level.note Lexeme.Level.note
  split_ifs <;> rfl

theorem strayBlank?_levelAt (level : Lexeme.Level) :
    (levelAt start level).strayBlank? = level.strayBlank?.map fun b => start + b.1 := by
  unfold Level.strayBlank? Lexeme.Level.strayBlank? levelAt
  split_ifs <;> rfl

theorem SeesBlank.note {level : Lexeme.Level} (h : SeesBlank text start level)
    (hc : text[start + k]? = some c) : SeesBlank text start (level.note k c) := by
  intro b blank hb
  cases hblank : isBlank c with
  | true =>
      rw [Lexeme.Level.note_blank hblank] at hb
      cases hb
      exact hc
  | false =>
      rw [Lexeme.Level.blank_note hblank] at hb
      exact h b blank hb

theorem parens_note_pos {level : Lexeme.Level} (hopened : Opened level (c :: cs))
    (hclose : ¬(c = ')' ∧ level.parens ≤ 1)) : 0 < (level.note k c).parens := by
  rcases hopened with hpos | hhead
  · unfold Lexeme.Level.note
    split_ifs with hopen hclosing
    · exact Nat.succ_pos _
    · have hmore : ¬level.parens ≤ 1 := fun hle => hclose ⟨hclosing, hle⟩
      show 0 < level.parens - 1
      omega
    all_goals exact hpos
  · cases hhead
    exact Nat.succ_pos _

theorem exists_propertyEnd {outer : List Lexeme.Level} {level : Lexeme.Level}
    (h : text.drop (start + k) = cs) (hopened : Opened level cs)
    (houter : ∀ l ∈ outer, 0 < l.parens) (hblanks : ∀ l ∈ level :: outer, SeesBlank text start l) :
    ∃ r, propertyEnd text ((level :: outer).map (levelAt start)) (start + k) = some r ∧
      PropertyAgrees text start r (Lexeme.propertyEnd outer level k cs) := by
  induction cs generalizing outer level k with
  | nil =>
      rw [propertyEnd, guarded_nil h]
      exact ⟨_, rfl, .missing⟩
  | cons c cs ih =>
      obtain ⟨hc, hrest⟩ := of_drop_eq_cons h
      have hnext : text[start + k + 1]? = cs.head? := by
        rw [← hrest, List.head?_drop]
      have hrest' : text.drop (start + (k + 1)) = cs := hrest
      obtain ⟨hlevel, hothers⟩ := List.forall_mem_cons.mp hblanks
      rw [propertyEnd, guarded_cons h, List.map_cons]
      simp only [levelAt_note, hnext]
      by_cases hclose : c = ')' ∧ level.parens ≤ 1
      · obtain ⟨rfl, hparens⟩ := hclose
        have hzero : (levelAt start (level.note k ')')).parens = 0 := Nat.sub_eq_zero_of_le hparens
        rw [if_neg (by simp), if_pos hzero, Lexeme.propertyEnd_close hparens]
        have hsame : (level.note k ')').strayBlank? = level.strayBlank? := rfl
        rw [strayBlank?_levelAt, hsame]
        cases hblank : level.strayBlank? with
        | some found =>
            obtain ⟨b, blank⟩ := found
            exact ⟨_, rfl, .stray (hlevel b blank (Lexeme.Level.blank_of_strayBlank? hblank))⟩
        | none =>
            cases outer with
            | nil => exact ⟨_, rfl, .closed k⟩
            | cons around outer =>
                obtain ⟨haround, houter⟩ := List.forall_mem_cons.mp houter
                exact ih hrest' (.inl haround) houter hothers
      · have hpos := parens_note_pos (k := k) hopened hclose
        by_cases hnest : c = '$' ∧ cs.head? = some '('
        · rw [Lexeme.propertyEnd_nest hclose hnest, if_pos hnest]
          have hfresh : Opened Lexeme.Level.fresh cs := .inr hnest.2
          refine ih hrest' hfresh (List.forall_mem_cons.mpr ⟨hpos, houter⟩)
            (List.forall_mem_cons.mpr ⟨seesBlank_fresh text start,
              List.forall_mem_cons.mpr ⟨hlevel.note hc, hothers⟩⟩)
        · have hne : (levelAt start (level.note k c)).parens ≠ 0 := Nat.ne_of_gt hpos
          rw [Lexeme.propertyEnd_note hclose hnest, if_neg hnest, if_neg hne]
          exact ih hrest' (.inl hpos) houter
            (List.forall_mem_cons.mpr ⟨hlevel.note hc, hothers⟩)

variable {marked : Bool}

/-- A quote inside of an item list is passed over up to the next one. -/
theorem markedEnd_listQuote (cs : List Char) :
    Lexeme.markedEnd mode .listQuote marked k cs =
      Lexeme.markedEnd mode .list marked (k + (cs.takeWhile (· != '\'')).length + 1)
        (cs.drop ((cs.takeWhile (· != '\'')).length + 1)) := by
  induction cs generalizing k with
  | nil => rfl
  | cons c cs ih =>
      rw [Lexeme.markedEnd]
      by_cases hquote : c = '\''
      · subst hquote
        rfl
      · have hpass : (c != '\'') = true := bne_iff_ne.mpr hquote
        rw [Lexeme.Zone.behind, if_neg hquote, List.takeWhile_cons, if_pos hpass, ih,
          List.length_cons, List.drop_succ_cons, Nat.add_right_comm k 1, Nat.add_assoc k]

/-- Behind the end of an item list, reading goes on in the quoted text. -/
theorem exists_embeddedEnd (i : Nat) :
    ∃ j, embeddedEnd text i = some j ∧ ∀ k, Lexeme.markedEnd mode .list marked k (text.drop i) =
      Lexeme.markedEnd mode .text marked (k + (j + 1 - i)) (text.drop (j + 1)) := by
  fun_induction embeddedEnd text i with
  | case1 i hlt ihQuote ih =>
      obtain ⟨c, cs, h⟩ :=
        List.exists_cons_of_ne_nil (mt List.drop_eq_nil_iff.mp (Nat.not_le.mpr hlt))
      obtain ⟨hc, hrest⟩ := of_drop_eq_cons h
      rw [hc, h]
      simp only [Option.bind_eq_bind, Option.bind_some, Lexeme.markedEnd, Lexeme.Zone.behind]
      by_cases hclose : c = ')'
      · rw [if_pos hclose, if_pos hclose]
        refine ⟨i, rfl, fun k => ?_⟩
        rw [hrest, Nat.add_sub_cancel_left]
      · rw [if_neg hclose, if_neg hclose]
        by_cases hquote : c = '\''
        · rw [if_pos hquote, if_pos hquote]
          have hseek := seek_eq '\'' hrest
          split
          · rename_i j hj
            obtain ⟨m, hm, hsame⟩ := ihQuote j hj
            refine ⟨m, hm, fun k => ?_⟩
            obtain rfl : i + 1 + (cs.takeWhile (· != '\'')).length = j :=
              Option.some.inj (hseek.symm.trans hj)
            have hle := le_of_embeddedEnd hm
            rw [markedEnd_listQuote, ← hrest, List.drop_drop, hrest, ← Nat.add_assoc, hsame]
            congr 1
            omega
          · rename_i hnone
            rw [hseek] at hnone
            cases hnone
        · rw [if_neg hquote, if_neg hquote]
          obtain ⟨m, hm, hsame⟩ := ih
          have hle := le_of_embeddedEnd hm
          refine ⟨m, hm, fun k => ?_⟩
          rw [← hrest, hsame]
          congr 1
          omega
  | case2 i hlt =>
      refine ⟨i, rfl, fun k => ?_⟩
      rw [List.drop_eq_nil_iff.mpr (Nat.not_lt.mp hlt),
        List.drop_eq_nil_iff.mpr (Nat.le_succ_of_le (Nat.not_lt.mp hlt))]
      rfl

/-- Behind an item list that begins at a place, reading goes on at the place behind its parenthesis.
If there is none, that is the end of the text, where it does not count how much has been passed. -/
theorem exists_itemsBehind {i : Nat} {body : List Char} (hi : start ≤ i)
    (h : text.drop (i + 1) = '(' :: body) :
    ∃ j, embeddedEnd text (i + 2) = some j ∧
      Lexeme.markedEnd mode .list true (i - start + 1) ('(' :: body) =
        Lexeme.markedEnd mode .text true (min (j + 1) text.length - start)
          (text.drop (min (j + 1) text.length)) := by
  obtain ⟨j, hj, hsame⟩ := @exists_embeddedEnd text mode true (i + 2)
  have hle := le_of_embeddedEnd hj
  have hbody : text.drop (i + 2) = body := (of_drop_eq_cons h).2
  refine ⟨j, hj, ?_⟩
  rw [Lexeme.markedEnd, ← hbody]
  refine (hsame _).trans ?_
  by_cases hin : j + 1 ≤ text.length
  · rw [Nat.min_eq_left hin]
    congr 1
    omega
  · have hout : text.length ≤ j + 1 := Nat.le_of_not_le hin
    rw [Nat.min_eq_right hout, List.drop_eq_nil_iff.mpr hout,
      List.drop_eq_nil_iff.mpr (Nat.le_refl _)]
    rfl

/-- A walk comes to the end of a quoted text that reading comes to, or is refused as reading is. -/
inductive QuotedAgrees (text : List Char) (start : Nat) :
    Except Failure (Nat × Bool) → Except Fault (Nat × Bool) → Prop where
  | closed (m : Nat) (marked : Bool) :
      QuotedAgrees text start (.ok (start + m, marked)) (.ok (m, marked))
  | missing {i : Nat} {marked : Bool} (hi : text.length ≤ i) :
      QuotedAgrees text start (.ok (i, marked)) (.error ⟨.stringNotClosed, none, 0, 0⟩)
  | refused (cause : Cause) (k : Nat) :
      QuotedAgrees text start (.error (Failure.bareAt cause (start + k)))
        (.error ⟨cause, none, k, 0⟩)

theorem exists_quotedEnd (i : Nat) (hi : start ≤ i) :
    ∃ r, quotedEnd text mode marked i = some r ∧
      QuotedAgrees text start r (Lexeme.markedEnd mode .text marked (i - start) (text.drop i)) := by
  fun_induction quotedEnd text mode marked i with
  | case1 marked i hlt ihItems ih =>
      obtain ⟨c, cs, h⟩ :=
        List.exists_cons_of_ne_nil (mt List.drop_eq_nil_iff.mp (Nat.not_le.mpr hlt))
      obtain ⟨hc, hrest⟩ := of_drop_eq_cons h
      have hnext : text[i + 1]? = cs.head? := by
        rw [← hrest, List.head?_drop]
      rw [hc, h]
      have hplace : start + (i - start + 1) = i + 1 := by omega
      have hbehind : i + 1 - start = i - start + 1 := Nat.sub_add_comm hi
      simp only [Option.bind_eq_bind, Option.bind_some, hnext]
      by_cases hquote : c = '\''
      · rw [if_pos hquote, hquote, Lexeme.markedEnd_text_quote]
        have hclosed : QuotedAgrees text start (.ok (start + (i - start), marked)) _ :=
          .closed (i - start) marked
        rw [Nat.add_sub_cancel' hi] at hclosed
        exact ⟨_, rfl, hclosed⟩
      · rw [if_neg hquote]
        by_cases hitems : c = '@' ∧ cs.head? = some '('
        · rw [if_pos hitems, Lexeme.markedEnd_text_items hitems]
          by_cases hmode : mode = .propertiesOnly
          · rw [if_pos hmode, if_pos hmode, ← hplace]
            exact ⟨_, rfl, .refused _ _⟩
          · rw [if_neg hmode, if_neg hmode]
            obtain ⟨body, rfl⟩ := List.head?_eq_some_iff.mp hitems.2
            obtain ⟨j, hj, hend⟩ := exists_itemsBehind hi hrest
            have hle := le_of_embeddedEnd hj
            have hlater := ihItems j hj (by omega)
            rw [← hend] at hlater
            split
            · rename_i j' hj'
              obtain rfl : j = j' := Option.some.inj (hj.symm.trans hj')
              exact hlater
            · rename_i hnone
              rw [hj] at hnone
              cases hnone
        · rw [if_neg hitems]
          by_cases hmetadata : c = '%' ∧ cs.head? = some '(' ∧ mode = .propertiesOnly
          · rw [if_pos hmetadata, Lexeme.markedEnd_text_metadata hmetadata, ← hplace]
            exact ⟨_, rfl, .refused _ _⟩
          · rw [if_neg hmetadata, Lexeme.markedEnd_text_pass hquote hitems hmetadata, ← hrest,
              ← hbehind]
            have hlater := ih c (Nat.le_succ_of_le hi)
            rw [hnext, ← hrest] at hlater
            exact hlater
  | case2 marked i hlt =>
      rw [List.drop_eq_nil_iff.mpr (Nat.not_lt.mp hlt)]
      exact ⟨_, rfl, .missing (Nat.not_lt.mp hlt)⟩

end Places

end BuildCondition
