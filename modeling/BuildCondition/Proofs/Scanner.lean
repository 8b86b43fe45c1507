import BuildCondition.Proofs.Lexeme.Faults
import BuildCondition.Proofs.Lexeme.Placed
import BuildCondition.Proofs.Spacing
import BuildCondition.Proofs.Tiling

/-!
# Calling a scanner again and again

A call of a scanner ends in one of three ways: there is a token, there is none left, or the next
lexeme cannot be read (§1). A call either moves on or leaves the scanner as all further calls will
find it (§2). What it does can also be done by places in a text that is kept whole, and then no
place is out of range (§3). From this follows what any number of calls do, also behind a failure or
the end: after as many calls as there are characters, and one more, nothing new is said (§4).
Calling a scanner for as long as there are tokens gives what cutting the whole text at once does
(§5).
-/

namespace BuildCondition

open BuildCondition.Text

namespace Scanner

variable {text : List Char} {s s' : Scanner} {answer : Except Failure Bool} {n : Nat}

/-! ## §1  One call -/

/-- What may become of a scanner in a call, and what the call says. -/
inductive Calls (s : Scanner) : Scanner → Except Failure Bool → Prop where
  /-- only blanks are left -/
  | ended (hrest : s.skipBlanks.rest = []) :
      Calls s { s.skipBlanks with current := .endOfInput s.skipBlanks.position } (.ok false)
  /-- a token comes next -/
  | token {c : Char} {cs : List Char} {l : Lexeme} (hrest : s.skipBlanks.rest = c :: cs)
      (hread : Lexeme.readLexeme s.mode c cs = .ok l) :
      Calls s { s.skipBlanks.pass l with current := .token ⟨l, s.skipBlanks.position⟩ } (.ok true)
  /-- a lexeme comes next that cannot be read -/
  | failed {c : Char} {cs : List Char} {fault : Fault} (hrest : s.skipBlanks.rest = c :: cs)
      (hread : Lexeme.readLexeme s.mode c cs = .error fault) :
      Calls s (s.skipBlanks.skip fault.consumed) (.error (fault.failure s.skipBlanks.position))

theorem calls_advance (s : Scanner) : Calls s s.advance.1 s.advance.2 := by
  unfold advance
  simp only []
  split
  · rename_i hrest
    exact .ended hrest
  · rename_i c cs hrest
    split
    · rename_i l hread
      exact .token hrest hread
    · rename_i fault hread
      exact .failed hrest hread

/-- A scanner in a text: what is left of the text stands behind as many characters as it has read,
which are not more than there are. -/
structure Reads (text : List Char) (s : Scanner) : Prop where
  position_le : s.position ≤ text.length
  rest_eq : s.rest = text.drop s.position

theorem reads_start (mode : Mode) (condition : String) :
    (start mode condition).Reads condition.toList :=
  ⟨Nat.zero_le _, rfl⟩

theorem Reads.length_rest (h : s.Reads text) : s.position + s.rest.length = text.length := by
  rw [h.rest_eq, List.length_drop]
  have hposition := h.position_le
  omega

theorem Reads.skip (h : s.Reads text) (hn : n ≤ s.rest.length) : (s.skip n).Reads text where
  position_le := by
    have hlength := h.length_rest
    show s.position + n ≤ text.length
    omega
  rest_eq := by
    show s.rest.drop n = text.drop (s.position + n)
    rw [h.rest_eq, List.drop_drop]

theorem rest_skipBlanks (s : Scanner) : s.skipBlanks.rest = s.rest.dropWhile isBlank :=
  drop_length_takeWhile isBlank s.rest

theorem stops_skipBlanks (s : Scanner) : Stops isBlank s.skipBlanks.rest := by
  rw [rest_skipBlanks]
  exact stops_dropWhile

theorem Reads.skipBlanks (h : s.Reads text) : s.skipBlanks.Reads text :=
  h.skip (List.takeWhile_prefix isBlank).length_le

theorem position_le_skipBlanks (s : Scanner) : s.position ≤ s.skipBlanks.position :=
  Nat.le_add_right _ _

/-- Only blanks are passed over on the way to the next lexeme. -/
theorem Reads.blank (h : s.Reads text) {i : Nat} {c : Char} (hi : s.position ≤ i)
    (hlt : i < s.skipBlanks.position) (hc : text[i]? = some c) : isBlank c = true := by
  obtain ⟨k, rfl⟩ := Nat.exists_eq_add_of_le hi
  have hk : k < (s.rest.takeWhile isBlank).length := Nat.lt_of_add_lt_add_left hlt
  have hrest : s.rest[k]? = some c := by
    rw [h.rest_eq, List.getElem?_drop]
    exact hc
  have htake : (s.rest.takeWhile isBlank)[k]? = some c := by
    rw [← hrest]
    conv_rhs => rw [← List.takeWhile_append_dropWhile (p := isBlank) (l := s.rest)]
    rw [List.getElem?_append_left hk]
  exact all_takeWhile c (List.mem_of_getElem? htake)

theorem skip_zero (s : Scanner) : s.skip 0 = s := rfl

theorem skipBlanks_of_stops (h : Stops isBlank s.rest) : s.skipBlanks = s := by
  have hnone : s.rest.takeWhile isBlank = [] := by
    have htake := takeWhile_append_stops (List.forall_mem_nil _) h
    rwa [List.nil_append] at htake
  rw [skipBlanks, hnone]
  rfl

theorem skipBlanks_skipBlanks (s : Scanner) : s.skipBlanks.skipBlanks = s.skipBlanks :=
  skipBlanks_of_stops s.stops_skipBlanks

theorem position_le_pass (s : Scanner) (l : Lexeme) :
    s.position + l.width ≤ (s.pass l).position := by
  unfold pass
  split
  · exact position_le_skipBlanks (s.skip _)
  · exact Nat.le_refl _

theorem Reads.pass (h : s.Reads text) {l : Lexeme} (hl : l.width ≤ s.rest.length) :
    (s.pass l).Reads text := by
  unfold Scanner.pass
  split
  · exact (h.skip hl).skipBlanks
  · exact h.skip hl

/-- A scanner in a text knows where it ends. -/
theorem Reads.position_eq (h : s.Reads text) (hrest : s.rest = []) :
    s.position = text.length := by
  have hlength := h.length_rest
  rw [hrest] at hlength
  exact hlength

/-- A lexeme that is read stands where reading it starts, and takes a character at least. -/
theorem Reads.written (h : s.Reads text) {c : Char} {cs : List Char} {l : Lexeme}
    (hrest : s.rest = c :: cs) (hblank : isBlank c = false)
    (hread : Lexeme.readLexeme s.mode c cs = .ok l) :
    0 < l.width ∧ l.width ≤ s.rest.length ∧
      l.WrittenAs (Token.slice ⟨l, s.position⟩ text) := by
  obtain ⟨src, more, heq, ⟨hspelled, d, after, rfl, _, _⟩, _⟩ :=
    Lexeme.spells_of_readLexeme hblank hread
  have htext : text.drop s.position = (d :: after) ++ more := by
    rw [← h.rest_eq, hrest, heq]
  rw [Token.slice_of_drop htext hspelled.length_eq, ← hspelled.length_eq, hrest, heq,
    List.length_append]
  exact ⟨Nat.succ_pos _, Nat.le_add_right _ _, hspelled.writtenAs⟩

/-! ## §2  Moving on or staying -/

/-- The next lexeme of a text from a place on starts with `c` behind `start` characters. -/
structure LexemeAt (text : List Char) (position start : Nat) (c : Char) : Prop where
  position_le : position ≤ start
  first : text[start]? = some c
  not_blank : isBlank c = false
  blanks : ∀ i d, position ≤ i → i < start → text[i]? = some d → isBlank d = true

theorem Reads.lexemeAt (h : s.Reads text) {c : Char} {cs : List Char}
    (hrest : s.skipBlanks.rest = c :: cs) :
    LexemeAt text s.position s.skipBlanks.position c where
  position_le := s.position_le_skipBlanks
  first := (of_drop_eq_cons (h.skipBlanks.rest_eq.symm.trans hrest)).1
  not_blank := Stops.head (hrest ▸ s.stops_skipBlanks)
  blanks _ _ hi hlt hd := h.blank hi hlt hd

namespace Calls

theorem eq_advance (h : s.Calls s' answer) : s.advance = (s', answer) := by
  unfold advance
  cases h with
  | ended hrest => simp only [hrest]
  | token hrest hread =>
      have hmode : s.skipBlanks.mode = s.mode := rfl
      simp only [hrest, hmode, hread]
  | failed hrest hread =>
      have hmode : s.skipBlanks.mode = s.mode := rfl
      simp only [hrest, hmode, hread]

/-- In a call, a scanner stays in the text and does not go back. -/
theorem reads (h : s.Calls s' answer) (hs : s.Reads text) :
    s'.Reads text ∧ s.position ≤ s'.position := by
  have hposition := s.position_le_skipBlanks
  cases h with
  | ended hrest => exact ⟨⟨hs.skipBlanks.position_le, hs.skipBlanks.rest_eq⟩, hposition⟩
  | @token c cs l hrest hread =>
      obtain ⟨_, hwidth, _⟩ := hs.skipBlanks.written hrest (hs.lexemeAt hrest).not_blank hread
      have hpass := hs.skipBlanks.pass hwidth
      have hmoved := position_le_pass s.skipBlanks l
      refine ⟨⟨hpass.position_le, hpass.rest_eq⟩, ?_⟩
      show s.position ≤ (s.skipBlanks.pass l).position
      omega
  | @failed c cs fault hrest hread =>
      have hfault := Lexeme.readLexeme_eq_error hread
      have hconsumed : fault.consumed ≤ s.skipBlanks.rest.length := by
        rw [hrest]
        split at hfault
        · exact hfault.2.2
        · rw [hfault.2]
          exact Nat.zero_le _
      exact ⟨hs.skipBlanks.skip hconsumed, Nat.le_add_right_of_le hposition⟩

/-- A token that is handed out stands between the old position and the new one. -/
theorem current_token (h : s.Calls s' (.ok true)) (hs : s.Reads text) :
    ∃ t : Token, s'.current = .token t ∧ s.position ≤ t.offset ∧ t.offset < t.stop ∧
      t.stop ≤ s'.position ∧ t.lexeme.WrittenAs (t.slice text) := by
  cases h with
  | @token c cs l hrest hread =>
      obtain ⟨hpos, _, hwritten⟩ :=
        hs.skipBlanks.written hrest (hs.lexemeAt hrest).not_blank hread
      exact ⟨⟨l, s.skipBlanks.position⟩, rfl, s.position_le_skipBlanks, Nat.lt_add_of_pos_right hpos,
        position_le_pass s.skipBlanks l, hwritten⟩

/-- At the end, a scanner stays as it is. -/
theorem stays_ended (h : s.Calls s' (.ok false)) (hs : s.Reads text) :
    s'.current = .endOfInput text.length ∧ s'.Calls s' (.ok false) := by
  cases h with
  | ended hrest =>
      refine ⟨congrArg Terminal.endOfInput (hs.skipBlanks.position_eq hrest), ?_⟩
      generalize hs' : { s.skipBlanks with current := .endOfInput s.skipBlanks.position } = s'
      have hnone : s'.rest = [] := by
        rw [← hs']
        exact hrest
      have hsame : s'.skipBlanks = s' := skipBlanks_of_stops (hnone ▸ stops_nil)
      have hcurrent : { s' with current := .endOfInput s'.position } = s' := by
        rw [← hs']
      have hcall := Calls.ended (s := s') (hsame.symm ▸ hnone)
      rwa [hsame, hcurrent] at hcall

/-- At a lexeme that cannot be read, a scanner stays as it is, unless a numeral has made it move
on. -/
theorem stays_failed {f : Failure} (h : s.Calls s' (.error f)) (hs : s.Reads text) :
    s'.current = s.current ∧ ∃ start c, LexemeAt text s.position start c ∧
      start < f.position ∧ f.position ≤ text.length + 1 ∧
      if Lexeme.startsNumeral c then start < s'.position else s'.Calls s' (.error f) := by
  cases h with
  | @failed c cs fault hrest hread =>
      have hfault := Lexeme.readLexeme_eq_error hread
      have hposition : (fault.failure s.skipBlanks.position).position =
          s.skipBlanks.position + fault.ahead + 1 := by
        unfold Fault.failure
        split <;> rfl
      have hahead := Lexeme.ahead_le_of_readLexeme hread
      have hlength := hs.skipBlanks.length_rest
      rw [hrest] at hlength
      refine ⟨rfl, s.skipBlanks.position, c, hs.lexemeAt hrest, by omega, by omega, ?_⟩
      split at hfault
      · rename_i hnumeral
        rw [if_pos hnumeral]
        exact Nat.lt_add_of_pos_right hfault.2.1
      · rename_i hnumeral
        rw [if_neg hnumeral, hfault.2, skip_zero]
        have hcall : Calls s.skipBlanks (s.skipBlanks.skipBlanks.skip fault.consumed)
            (.error (fault.failure s.skipBlanks.skipBlanks.position)) :=
          .failed (s.skipBlanks_skipBlanks.symm ▸ hrest) hread
        rwa [skipBlanks_skipBlanks, hfault.2, skip_zero] at hcall

end Calls

/-! ## §3  By places -/

/-- A scanner as it is by places. -/
def byPlaces (text : List Char) (s : Scanner) : PlaceScanner :=
  ⟨text, s.mode, s.position, s.current.record⟩

theorem Reads.position_skipBlanks (h : s.Reads text) :
    s.skipBlanks.position = Places.skipWhile text isBlank s.position := by
  rw [Places.skipWhile_eq isBlank h.rest_eq.symm]
  rfl

theorem mode_pass (s : Scanner) (l : Lexeme) : (s.pass l).mode = s.mode := by
  unfold pass
  split <;> rfl

theorem Reads.position_pass (h : s.Reads text) {l : Lexeme} (hl : l.width ≤ s.rest.length) :
    (s.pass l).position = Places.behind text s.position l := by
  cases l with
  | functionName name => exact (h.skip hl).position_skipBlanks
  | _ => rfl

/-- In a call, no place is out of range, and the same comes of it. -/
theorem Reads.advance_byPlaces (h : s.Reads text) :
    (s.byPlaces text).advance = some (s.advance.1.byPlaces text, s.advance.2) := by
  have hdrop := h.skipBlanks.rest_eq.symm
  have hcall := calls_advance s
  generalize s.advance = r at hcall
  obtain ⟨s', answer⟩ := r
  simp only [PlaceScanner.advance, byPlaces, ← h.position_skipBlanks,
    Places.head?_eq_of_drop hdrop]
  cases hcall with
  | ended hrest =>
      rw [hrest, h.skipBlanks.position_eq hrest]
      rfl
  | token hrest hread =>
      obtain ⟨_, hwidth, _⟩ := h.skipBlanks.written hrest (h.lexemeAt hrest).not_blank hread
      rw [hrest, List.head?_cons, mode_pass, h.skipBlanks.position_pass hwidth]
      simp only [Places.lexeme_eq (hdrop.trans hrest), hread]
      rfl
  | failed hrest hread =>
      rw [hrest, List.head?_cons]
      simp only [Places.lexeme_eq (hdrop.trans hrest), hread]
      rfl

/-! ## §4  Any number of calls -/

/-- What becomes of a scanner in some calls, whatever they say. -/
def afterCalls (s : Scanner) : Nat → Scanner
  | 0 => s
  | n + 1 => (s.afterCalls n).advance.1

/-- What the call behind `n` others says. -/
def answerAt (s : Scanner) (n : Nat) : Except Failure Bool :=
  (s.afterCalls n).advance.2

theorem calls_afterCalls (s : Scanner) (n : Nat) :
    (s.afterCalls n).Calls (s.afterCalls (n + 1)) (s.answerAt n) :=
  calls_advance (s.afterCalls n)

theorem Reads.afterCalls (h : s.Reads text) (n : Nat) : (s.afterCalls n).Reads text := by
  induction n with
  | zero => exact h
  | succ n ih => exact ((s.calls_afterCalls n).reads ih).1

/-- From the call behind `n` others on, a scanner stays as it is and says the same. -/
def SettledAt (s : Scanner) (n : Nat) : Prop :=
  ∀ m, n ≤ m → s.afterCalls (m + 1) = s.afterCalls (n + 1) ∧ s.answerAt m = s.answerAt n

/-- What a call leaves as it is stays so. -/
theorem settledAt_of_calls
    (h : (s.afterCalls (n + 1)).Calls (s.afterCalls (n + 1)) (s.answerAt n)) : s.SettledAt n := by
  intro m hm
  obtain ⟨k, rfl⟩ := Nat.exists_eq_add_of_le hm
  induction k with
  | zero => exact ⟨rfl, rfl⟩
  | succ k ih =>
      obtain ⟨hsame, _⟩ := ih (Nat.le_add_right n k)
      have hadvance : (s.afterCalls (n + k + 1)).advance = (s.afterCalls (n + 1), s.answerAt n) := by
        rw [hsame]
        exact h.eq_advance
      exact ⟨congrArg Prod.fst hadvance, congrArg Prod.snd hadvance⟩

theorem SettledAt.mono {m : Nat} (h : s.SettledAt n) (hm : n ≤ m) : s.SettledAt m := by
  intro k hk
  have hlater := h k (Nat.le_trans hm hk)
  have hat := h m hm
  exact ⟨hlater.1.trans hat.1.symm, hlater.2.trans hat.2.symm⟩

/-- A call that does not move on is the last one of interest. -/
theorem lt_or_settledAt (h : s.Reads text) (n : Nat) :
    (s.afterCalls n).position < (s.afterCalls (n + 1)).position ∨ s.SettledAt n := by
  have hcall := s.calls_afterCalls n
  have hreads := h.afterCalls n
  cases hanswer : s.answerAt n with
  | ok more =>
      rw [hanswer] at hcall
      cases more with
      | true =>
          obtain ⟨t, _, hstart, hrange, hstop, _⟩ := hcall.current_token hreads
          exact .inl (by omega)
      | false =>
          refine .inr (settledAt_of_calls ?_)
          rw [hanswer]
          exact (hcall.stays_ended hreads).2
  | error f =>
      rw [hanswer] at hcall
      obtain ⟨_, start, c, hplace, _, _, hstays⟩ := hcall.stays_failed hreads
      split at hstays
      · exact .inl (Nat.lt_of_le_of_lt hplace.position_le hstays)
      · refine .inr (settledAt_of_calls ?_)
        rw [hanswer]
        exact hstays

/-- Either each call so far has moved on, or there was one that did not. -/
theorem le_position_or_settledAt (h : s.Reads text) (n : Nat) :
    n ≤ (s.afterCalls n).position ∨ ∃ k < n, s.SettledAt k := by
  induction n with
  | zero => exact .inl (Nat.zero_le _)
  | succ n ih =>
      rcases ih with hle | ⟨k, hk, hsettled⟩
      · rcases lt_or_settledAt h n with hlt | hsettled
        · exact .inl (by omega)
        · exact .inr ⟨n, Nat.lt_succ_self n, hsettled⟩
      · exact .inr ⟨k, Nat.lt_succ_of_lt hk, hsettled⟩

/-- After as many calls as there are characters, the next call is the last one of interest. -/
theorem settledAt_length (h : s.Reads text) : s.SettledAt text.length := by
  rcases le_position_or_settledAt h text.length with hle | ⟨k, hk, hsettled⟩
  · rcases lt_or_settledAt h text.length with hlt | hsettled
    · -- there is nowhere to go behind the end
      have hend := (h.afterCalls (text.length + 1)).position_le
      omega
    · exact hsettled
  · exact hsettled.mono (Nat.le_of_lt hk)

/-- How a scanner behaves that is called again and again: `scanner n` is what has become of it in
`n` calls, and `answer n` is what the next one says. -/
structure Sound (text : List Char) (scanner : Nat → Scanner)
    (answer : Nat → Except Failure Bool) : Prop where
  /-- it reads on where it stands, in the text or at its end -/
  reads : ∀ n, (scanner n).Reads text
  /-- no place and no slice of the text that it reaches for is out of range -/
  in_range : ∀ n, ((scanner n).byPlaces text).advance =
    some ((scanner (n + 1)).byPlaces text, answer n)
  /-- it never goes back -/
  position_le : ∀ n, (scanner n).position ≤ (scanner (n + 1)).position
  /-- a token that it hands out is what stands between where it was and where it is then -/
  token : ∀ n, answer n = .ok true → ∃ t : Token, (scanner (n + 1)).current = .token t ∧
    (scanner n).position ≤ t.offset ∧ t.offset < t.stop ∧ t.stop ≤ (scanner (n + 1)).position ∧
    t.lexeme.WrittenAs (t.slice text)
  /-- the end of the text, once it is told, is told ever after -/
  ended : ∀ n, answer n = .ok false → ∀ m, n ≤ m →
    answer m = .ok false ∧ (scanner (m + 1)).current = .endOfInput text.length
  /-- a failure leaves the token of the call before -/
  kept : ∀ n f, answer n = .error f → (scanner (n + 1)).current = (scanner n).current
  /-- a failure is that of the next lexeme, and is repeated ever after, unless the lexeme starts as
  numerals do and its first character has been given up -/
  failed : ∀ n f, answer n = .error f → ∃ start c, LexemeAt text (scanner n).position start c ∧
    start < f.position ∧ f.position ≤ text.length + 1 ∧
    if Lexeme.startsNumeral c then start < (scanner (n + 1)).position
    else ∀ m, n ≤ m → answer m = .error f
  /-- what the call behind as many calls as there are characters does, all further calls do -/
  settled : ∀ n, text.length ≤ n →
    scanner (n + 1) = scanner (text.length + 1) ∧ answer n = answer text.length

/-- **A scanner stays sound after failures and behind the end.** However often it is called, it
reads on in the text, reaches for nothing out of range and never goes back; each token is new and is
written where it is said to be; the end is final, and so is a failure that is not that of a numeral,
which is given up in part. So after as many calls as there are characters and one more, nothing new
is said. -/
theorem sound_afterCalls (mode : Mode) (condition : String) :
    Sound condition.toList (start mode condition).afterCalls (start mode condition).answerAt := by
  have hstart := reads_start mode condition
  generalize start mode condition = s at hstart
  have hcall : ∀ n answer, s.answerAt n = answer →
      (s.afterCalls n).Calls (s.afterCalls (n + 1)) answer :=
    fun n answer hanswer => hanswer ▸ s.calls_afterCalls n
  refine ⟨hstart.afterCalls, fun n => ?_, fun n => ?_, fun n htrue => ?_, fun n hfalse m hm => ?_,
    fun n f herror => ?_, fun n f herror => ?_, settledAt_length hstart⟩
  · exact (hstart.afterCalls n).advance_byPlaces
  · exact ((s.calls_afterCalls n).reads (hstart.afterCalls n)).2
  · exact (hcall n _ htrue).current_token (hstart.afterCalls n)
  · obtain ⟨hcurrent, hstays⟩ := (hcall n _ hfalse).stays_ended (hstart.afterCalls n)
    rw [← hfalse] at hstays ⊢
    obtain ⟨hsame, hagain⟩ := settledAt_of_calls hstays m hm
    exact ⟨hagain, hsame ▸ hcurrent⟩
  · exact ((hcall n _ herror).stays_failed (hstart.afterCalls n)).1
  · obtain ⟨_, start, c, hplace, hlt, hle, hstays⟩ :=
      (hcall n _ herror).stays_failed (hstart.afterCalls n)
    refine ⟨start, c, hplace, hlt, hle, ?_⟩
    split at hstays
    · rename_i hnumeral
      rwa [if_pos hnumeral]
    · rename_i hnumeral
      rw [if_neg hnumeral]
      intro m hm
      rw [← herror] at hstays ⊢
      exact (settledAt_of_calls hstays m hm).2

/-! ## §5  The whole text -/

/-- What is left of a text, as it is cut at once. -/
def lexRest (s : Scanner) : Lexed :=
  lexAt s.mode s.position s.rest

theorem lexRest_skipBlanks (s : Scanner) : s.skipBlanks.lexRest = s.lexRest := by
  have hcut : lexAt s.mode s.position (s.rest.takeWhile isBlank ++ s.rest.dropWhile isBlank) =
      lexAt s.mode (s.position + (s.rest.takeWhile isBlank).length) (s.rest.dropWhile isBlank) :=
    lexAt_blanks all_takeWhile
  rw [List.takeWhile_append_dropWhile] at hcut
  rw [lexRest, lexRest, hcut, rest_skipBlanks]
  rfl

theorem lexRest_pass (s : Scanner) (l : Lexeme) :
    (s.pass l).lexRest = lexAt s.mode (s.position + l.width) (s.rest.drop l.width) := by
  unfold pass
  split
  · exact lexRest_skipBlanks (s.skip _)
  · rfl

namespace Calls

/-- What the next call finds is what cutting at once finds first. -/
theorem lexRest_token (h : s.Calls s' (.ok true)) (hs : s.Reads text) :
    ∃ t, s'.current = .token t ∧ s.lexRest = s'.lexRest.behind [t] := by
  rw [← s.lexRest_skipBlanks]
  cases h with
  | @token c cs l hrest hread =>
      refine ⟨⟨l, s.skipBlanks.position⟩, rfl, ?_⟩
      have hblank := (hs.lexemeAt hrest).not_blank
      obtain ⟨src, more, heq, hspells, hends⟩ := Lexeme.spells_of_readLexeme hblank hread
      have hsplit : s.skipBlanks.rest = src ++ more := hrest.trans heq
      show s.skipBlanks.lexRest = (s.skipBlanks.pass l).lexRest.behind _
      rw [lexRest_pass, hsplit, ← hspells.1.length_eq, List.drop_left]
      show lexAt s.mode s.skipBlanks.position s.skipBlanks.rest = _
      rw [hsplit]
      exact lexAt_lexeme hspells hends

theorem lexRest_ended (h : s.Calls s' (.ok false)) (hs : s.Reads text) :
    s.lexRest = ⟨[], .ok text.length⟩ := by
  rw [← s.lexRest_skipBlanks]
  cases h with
  | ended hrest =>
      rw [lexRest, hrest, hs.skipBlanks.position_eq hrest]
      rfl

theorem lexRest_failed {f : Failure} (h : s.Calls s' (.error f)) (hs : s.Reads text) :
    s.lexRest = ⟨[], .error f⟩ := by
  rw [← s.lexRest_skipBlanks]
  cases h with
  | failed hrest hread =>
      rw [lexRest, hrest]
      exact lexAt_fault (hs.lexemeAt hrest).not_blank hread

end Calls

/-- As long as there have been tokens, what has been handed out is what cutting at once finds before
what is left. -/
theorem lexRest_afterCalls (hs : s.Reads text) (h : ∀ k < n, s.answerAt k = .ok true) :
    ∃ ts : List Token, ((List.range n).map fun k => (s.afterCalls (k + 1)).current) =
        ts.map .token ∧ s.lexRest = (s.afterCalls n).lexRest.behind ts := by
  induction n with
  | zero => exact ⟨[], rfl, rfl⟩
  | succ n ih =>
      obtain ⟨ts, hhanded, hlex⟩ := ih fun k hk => h k (Nat.lt_succ_of_lt hk)
      have hcall := s.calls_afterCalls n
      rw [h n (Nat.lt_succ_self n)] at hcall
      obtain ⟨t, hcurrent, hnext⟩ := hcall.lexRest_token (hs.afterCalls n)
      refine ⟨ts ++ [t], ?_, ?_⟩
      · rw [List.range_succ, List.map_append, hhanded, List.map_append]
        exact congrArg (fun u => ts.map Terminal.token ++ [u]) hcurrent
      · rw [hlex, hnext, Lexed.behind_behind]

/-- Tokens are not found for ever. -/
theorem ne_true_of_settledAt (hs : s.Reads text) (h : s.SettledAt n) :
    s.answerAt n ≠ .ok true := by
  intro htrue
  obtain ⟨hsame, hagain⟩ := h (n + 1) (Nat.le_succ n)
  have hcall := s.calls_afterCalls (n + 1)
  rw [hagain, htrue, hsame] at hcall
  obtain ⟨t, _, hstart, hrange, hstop, _⟩ := hcall.current_token (hs.afterCalls (n + 1))
  omega

theorem exists_last_call (hs : s.Reads text) :
    ∃ n ≤ text.length, (∀ k < n, s.answerAt k = .ok true) ∧ s.answerAt n ≠ .ok true := by
  have hlast := ne_true_of_settledAt hs (settledAt_length hs)
  generalize text.length = n at hlast
  induction n using Nat.strongRecOn with
  | ind n ih =>
      by_cases hall : ∀ k < n, s.answerAt k = .ok true
      · exact ⟨n, Nat.le_refl n, hall, hlast⟩
      · obtain ⟨k, hk⟩ := Classical.not_forall.mp hall
        obtain ⟨hk, hne⟩ := Classical.not_imp.mp hk
        obtain ⟨m, hm, hearlier⟩ := ih k hk hne
        exact ⟨m, Nat.le_trans hm (Nat.le_of_lt hk), hearlier⟩

/-- **Cutting is calling.** A scanner that is called for as long as there are tokens hands out what
the condition is cut into at once, its end included, or fails with the same failure. -/
theorem tokenize_eq_calls (mode : Mode) (condition : String) :
    ∃ n ≤ condition.length,
      (∀ k < n, (start mode condition).answerAt k = .ok true) ∧
      (start mode condition).answerAt n ≠ .ok true ∧
      tokenize mode condition = ((start mode condition).answerAt n).map fun _ =>
        (List.range (n + 1)).map fun k => ((start mode condition).afterCalls (k + 1)).current := by
  have hs := reads_start mode condition
  have hlex : tokenize mode condition = (start mode condition).lexRest.terminals := rfl
  rw [hlex, ← String.length_toList]
  generalize start mode condition = s at hs
  obtain ⟨n, hn, htokens, hlast⟩ := exists_last_call hs
  refine ⟨n, hn, htokens, hlast, ?_⟩
  obtain ⟨ts, hhanded, hcut⟩ := lexRest_afterCalls hs htokens
  have hreads := hs.afterCalls n
  have hcall := s.calls_afterCalls n
  rw [hcut, List.range_succ, List.map_append, hhanded]
  cases hanswer : s.answerAt n with
  | ok more =>
      rw [hanswer] at hcall hlast
      cases more with
      | true => exact absurd rfl hlast
      | false =>
          rw [hcall.lexRest_ended hreads, List.map_singleton, (hcall.stays_ended hreads).1]
          simp [Lexed.terminals, Lexed.behind, Except.map]
  | error f =>
      rw [hanswer] at hcall
      rw [hcall.lexRest_failed hreads]
      rfl

end Scanner

end BuildCondition
