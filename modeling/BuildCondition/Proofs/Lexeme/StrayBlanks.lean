import BuildCondition.Proofs.Lexeme.Closing
import BuildCondition.Proofs.Lexeme.Levels
import BuildCondition.Token

/-!
# Blanks in references to properties

A level of a reference is refused if its text holds a blank and otherwise only characters of names
and parentheses (§1). A reference is read in one pass, with a record for each level that is open.
Each record tells what has been seen of the text of its level, every level that is closed by then
has been passed (§2), and this is kept by each step (§3). So the pass ends at the first level that
is refused, or else with the reference (§4), and it is known which references are refused at all
(§5). Parentheses do not count as characters that make blanks legal, which they should.
-/

namespace BuildCondition

open BuildCondition.Text

variable {src : List Char} {start stop limit s t k i : Nat} {c : Char}

/-! ## §1  The rule -/

/-- What makes blanks legal in the text of a level. -/
def LegalizesBlanks (c : Char) : Prop :=
  c ≠ '(' ∧ c ≠ ')' ∧ isBlank c = false ∧ isNameChar c = false

/-- A level is refused if there are blanks in its text and nothing that makes them legal. -/
structure IsRefused (src : List Char) (start stop : Nat) : Prop where
  level : IsLevel src start stop
  blank : HasOwn src start stop fun c => isBlank c = true
  plain : ¬HasOwn src start stop LegalizesBlanks

/-! ## §2  Records of open levels -/

namespace Lexeme

variable {level : Level}

namespace Level

theorem other_note : (level.note k c).other = true ↔ level.other = true ∨ LegalizesBlanks c := by
  unfold note LegalizesBlanks
  by_cases hopen : c = '('
  · simp [hopen]
  · by_cases hclose : c = ')'
    · simp [hclose]
    · cases hblank : isBlank c <;> cases hname : isNameChar c <;> simp [hopen, hclose]

end Level

/-- What a record tells of the text of its level, as far as `limit`. -/
structure Records (src : List Char) (start limit : Nat) (level : Level) : Prop where
  blank : ∀ i c, level.blank = some (i, c) →
    Owns src start limit i ∧ src[i]? = some c ∧ isBlank c = true
  noBlank : level.blank = none → ¬HasOwn src start limit fun c => isBlank c = true
  other : level.other = true ↔ HasOwn src start limit LegalizesBlanks

namespace Records

/-- As long as nothing belongs to the text, a record of nothing is right. -/
theorem of_not_owns (h : ∀ i, ¬Owns src start limit i) (hblank : level.blank = none)
    (hother : level.other = false) : Records src start limit level where
  blank i c hsome := by
    rw [hblank] at hsome
    cases hsome
  noBlank _ := fun ⟨i, _, howns, _⟩ => h i howns
  other := by
    rw [hother]
    exact ⟨nofun, fun ⟨i, _, howns, _⟩ => absurd howns (h i)⟩

theorem congr {limit' : Nat} (h : Records src start limit level)
    (hsame : ∀ i, Owns src start limit' i ↔ Owns src start limit i) :
    Records src start limit' level := by
  have hown : ∀ p, HasOwn src start limit' p ↔ HasOwn src start limit p := by
    intro p
    simp only [HasOwn, hsame]
  refine ⟨fun i c hsome => ?_, fun hnone => ?_, ?_⟩
  · rw [hsame]
    exact h.blank i c hsome
  · rw [hown]
    exact h.noBlank hnone
  · rw [hown]
    exact h.other

/-- One more character of the text is taken down. -/
theorem note (h : Records src start k level) (hc : src[k]? = some c)
    (hsucc : ∀ i, Owns src start (k + 1) i ↔ Owns src start k i ∨ i = k) :
    Records src start (k + 1) (level.note k c) := by
  have hown : ∀ p, HasOwn src start (k + 1) p ↔ HasOwn src start k p ∨ p c := by
    intro p
    constructor
    · rintro ⟨i, d, howns, hd, hp⟩
      rcases (hsucc i).mp howns with howns | rfl
      · exact .inl ⟨i, d, howns, hd, hp⟩
      · exact .inr (Option.some.inj (hd.symm.trans hc) ▸ hp)
    · rintro (⟨i, d, howns, hd, hp⟩ | hp)
      · exact ⟨i, d, (hsucc i).mpr (.inl howns), hd, hp⟩
      · exact ⟨k, c, (hsucc k).mpr (.inr rfl), hc, hp⟩
  refine ⟨fun i d hsome => ?_, fun hnone => ?_, ?_⟩
  · cases hblank : isBlank c with
    | true =>
        rw [Level.note_blank hblank] at hsome
        cases hsome
        exact ⟨(hsucc k).mpr (.inr rfl), hc, hblank⟩
    | false =>
        rw [Level.blank_note hblank] at hsome
        obtain ⟨howns, hd⟩ := h.blank i d hsome
        exact ⟨(hsucc i).mpr (.inl howns), hd⟩
  · rw [hown]
    cases hblank : isBlank c with
    | true =>
        rw [Level.note_blank hblank] at hnone
        cases hnone
    | false =>
        rw [Level.blank_note hblank] at hnone
        exact not_or.mpr ⟨h.noBlank hnone, Bool.false_ne_true⟩
  · rw [Level.other_note, h.other, hown]

/-- A level is not refused if there is no stray blank in the record. -/
theorem not_isRefused (h : Records src start stop level) (hstray : level.strayBlank? = none) :
    ¬IsRefused src start stop := by
  intro hrefused
  rw [Level.strayBlank?, if_neg (mt h.other.mp hrefused.plain)] at hstray
  exact h.noBlank hstray hrefused.blank

/-- A level is refused for the stray blank in the record. -/
theorem isRefused {b : Nat × Char} (h : Records src start stop level)
    (hlevel : IsLevel src start stop) (hstray : level.strayBlank? = some b) :
    IsRefused src start stop ∧
      Owns src start stop b.1 ∧ src[b.1]? = some b.2 ∧ isBlank b.2 = true := by
  unfold Level.strayBlank? at hstray
  split at hstray
  · cases hstray
  · rename_i hother
    obtain ⟨howns, hb⟩ := h.blank b.1 b.2 hstray
    exact ⟨⟨hlevel, ⟨b.1, b.2, howns, hb⟩, mt h.other.mpr hother⟩, howns, hb⟩

end Records

/-- A level that is open before place `k`, with a record of its text as far as `limit`. -/
structure OpenLevel (src : List Char) (k limit start : Nat) (level : Level) : Prop where
  opens : Opens src start
  behind : start < limit
  before : limit ≤ k
  above : ∀ i, start + 2 ≤ i → i ≤ k → height src (start + 2) ≤ height src i
  parens : (level.parens : Int) = height src limit - height src (start + 1)
  records : Records src start limit level

/-- The levels around the one that begins at `start`, from the inside to the first one, which
begins at place 0. The text of each has been seen as far as the `$` of the next one inside. -/
inductive Around (src : List Char) (k : Nat) : Nat → List (Nat × Level) → Prop where
  | first : Around src k 0 []
  | level {start a : Nat} {level : Level} {outer : List (Nat × Level)}
      (here : OpenLevel src k (start + 1) a level) (gap : a + 2 ≤ start)
      (around : Around src k a outer) : Around src k start ((a, level) :: outer)

/-- What is known at place `k`, where the level that begins at `start` is the innermost open one. -/
structure Scanning (src : List Char) (k start : Nat) (level : Level) (outer : List (Nat × Level)) :
    Prop where
  here : OpenLevel src k k start level
  around : Around src k start outer
  seen : ∀ s, Opens src s → s < k → s = start ∨ s ∈ outer.map Prod.fst ∨ ∃ t < k, IsLevel src s t
  passed : ∀ s t, t < k → ¬IsRefused src s t

/-! ## §3  One step -/

variable {level : Level} {outer : List (Nat × Level)}

theorem OpenLevel.next (h : OpenLevel src k limit start level)
    (hnext : height src (start + 2) ≤ height src (k + 1)) :
    OpenLevel src (k + 1) limit start level where
  opens := h.opens
  behind := h.behind
  before := Nat.le_succ_of_le h.before
  above i hi hle := by
    rcases Nat.lt_or_eq_of_le hle with hlt | rfl
    · exact h.above i hi (Nat.le_of_lt_succ hlt)
    · exact hnext
  parens := h.parens
  records := h.records

namespace Around

/-- Every level around begins below the present one. -/
theorem height_le (h : Around src k start outer) (hk : start ≤ k) :
    ∀ a ∈ outer.map Prod.fst, a < start ∧ height src (a + 2) ≤ height src start := by
  induction h with
  | first => exact fun a ha => absurd ha List.not_mem_nil
  | @level start a level outer here gap around ih =>
      have hstart := here.above start gap hk
      intro b hb
      rcases List.mem_cons.mp hb with rfl | hb
      · exact ⟨by omega, hstart⟩
      · obtain ⟨hlt, hle⟩ := ih (by omega) b hb
        have hopens := here.opens.height_eq
        exact ⟨by omega, by omega⟩

theorem next (h : Around src k start outer) (hk : start ≤ k)
    (hnext : height src start ≤ height src (k + 1)) : Around src (k + 1) start outer := by
  induction h with
  | first => exact .first
  | @level start a level outer here gap around ih =>
      have hstart := here.above start gap hk
      have hopens := here.opens.height_eq
      exact .level (here.next (by omega)) gap (ih (by omega) (by omega))

/-- The first level is open as long as the present one is. -/
theorem above_first (h : Around src k start outer)
    (habove : ∀ i, start + 2 ≤ i → i ≤ k → height src (start + 2) ≤ height src i) :
    ∀ i, 2 ≤ i → i ≤ k → height src 2 ≤ height src i := by
  induction h with
  | first => exact habove
  | level here gap around ih => exact ih here.above

end Around

namespace Scanning

/-- The reference itself is not closed yet. -/
theorem le_of_isLevel (h : Scanning src k start level outer) (hlevel : IsLevel src 0 t) :
    k ≤ t := by
  refine Nat.le_of_not_lt fun hlt => ?_
  have hbehind := hlevel.behind
  have habove := h.around.above_first h.here.above (t + 1) (by omega) hlt
  have hheight := hlevel.height_behind
  rw [Nat.zero_add] at hheight
  omega

/-- Before a closing parenthesis, the one that opens the level has been passed. -/
theorem add_two_le (h : Scanning src k start level outer) (hc : src[k]? = some c) (hne : c ≠ '(') :
    start + 2 ≤ k := by
  refine Nat.lt_of_le_of_ne h.here.behind ?_
  rintro rfl
  exact hne (Option.some.inj (hc.symm.trans h.here.opens.paren))

/-- Only the innermost open level can be closed. -/
theorem eq_start_of_isLevel (h : Scanning src k start level outer) (hlevel : IsLevel src s k) :
    s = start := by
  have hgap := h.add_two_le hlevel.closes (by decide)
  have hbehind := hlevel.behind
  rcases h.seen s hlevel.opens (by omega) with rfl | hmem | ⟨t, ht, hearlier⟩
  · rfl
  · obtain ⟨hlt, hle⟩ := h.around.height_le (by omega) s hmem
    have habove := h.here.above k hgap (Nat.le_refl k)
    have hstop := hlevel.height_stop
    have hopens := h.here.opens.height_eq
    omega
  · exact absurd (hearlier.stop_unique hlevel) (Nat.ne_of_lt ht)

/-- A parenthesis that closes the innermost open level makes a level of it. -/
theorem isLevel (h : Scanning src k start level outer) (hc : src[k]? = some ')')
    (hparens : level.parens ≤ 1) : IsLevel src start k := by
  have hgap := h.add_two_le hc (by decide)
  have habove := h.here.above k hgap (Nat.le_refl k)
  have hcount := h.here.parens
  have hopens := h.here.opens.height_eq
  refine ⟨h.here.opens, hc, hgap, (balances_between_iff hgap).mpr ⟨?_, h.here.above⟩⟩
  omega

/-- A character that closes no level. -/
theorem not_isLevel (h : Scanning src k start level outer) (hc : src[k]? = some c)
    (hclose : ¬(c = ')' ∧ level.parens ≤ 1)) : ¬IsLevel src s k := by
  intro hlevel
  obtain rfl : c = ')' := Option.some.inj (hc.symm.trans hlevel.closes)
  obtain rfl := h.eq_start_of_isLevel hlevel
  have hstop := hlevel.height_stop
  have hcount := h.here.parens
  have hopens := h.here.opens.height_eq
  exact hclose ⟨rfl, by omega⟩

/-- What has been passed is added to, if no level that is refused is closed. -/
theorem passed_succ (h : Scanning src k start level outer) (hnone : ∀ s, ¬IsRefused src s k) :
    ∀ s t, t < k + 1 → ¬IsRefused src s t := by
  intro s t ht
  rcases Nat.lt_or_eq_of_le (Nat.le_of_lt_succ ht) with hlt | rfl
  · exact h.passed s t hlt
  · exact hnone s

/-- What is known of the innermost open level behind a character that does not close it. -/
theorem records_note (h : Scanning src k start level outer) (hc : src[k]? = some c)
    (hclose : ¬(c = ')' ∧ level.parens ≤ 1)) : Records src start (k + 1) (level.note k c) := by
  have hbehind := h.here.behind
  by_cases hgap : start + 2 ≤ k
  · exact h.here.records.note hc fun i =>
      Owns.succ_iff hgap fun s _ => h.not_isLevel hc hclose
  · -- the parenthesis that opens the level is not in its text
    obtain rfl : k = start + 1 := by omega
    obtain rfl : c = '(' := Option.some.inj (hc.symm.trans h.here.opens.paren)
    have hnone : ∀ i, Owns src start (start + 1 + 1) i ↔ Owns src start (start + 1) i := fun i =>
      iff_of_false (fun howns => Nat.lt_irrefl _ howns.lt)
        fun howns => Nat.not_succ_le_self _ (Nat.le_of_lt howns.lt)
    have hsame := h.here.records.congr hnone
    exact ⟨hsame.blank, hsame.noBlank, hsame.other⟩

theorem here_note (h : Scanning src k start level outer) (hc : src[k]? = some c)
    (hclose : ¬(c = ')' ∧ level.parens ≤ 1)) :
    OpenLevel src (k + 1) (k + 1) start (level.note k c) := by
  have hcount := h.here.parens
  have hopens := h.here.opens.height_eq
  have hbehind := h.here.behind
  -- there is a parenthesis open in the level, also behind one that is closed
  obtain ⟨hparens, hnext⟩ :
      ((level.note k c).parens : Int) = height src (k + 1) - height src (start + 1) ∧
        height src (start + 2) ≤ height src (k + 1) := by
    by_cases hopen : c = '('
    · subst hopen
      have hheight := height_succ_open hc
      rw [Level.parens_note_open]
      omega
    · by_cases hparen : c = ')'
      · subst hparen
        have hheight := height_succ_close hc
        have hmany : 1 < level.parens := Nat.lt_of_not_le fun hle => hclose ⟨rfl, hle⟩
        rw [Level.parens_note_close]
        omega
      · rw [Level.parens_note hopen hparen, height_succ_pass hc hopen hparen]
        exact ⟨hcount, h.here.above k (h.add_two_le hc hopen) (Nat.le_refl k)⟩
  exact ⟨h.here.opens, by omega, Nat.le_refl _, (h.here.next hnext).above, hparens,
    h.records_note hc hclose⟩

/-- The level goes on. -/
theorem note (h : Scanning src k start level outer) (hc : src[k]? = some c)
    (hclose : ¬(c = ')' ∧ level.parens ≤ 1)) (hnest : ¬Opens src k) :
    Scanning src (k + 1) start (level.note k c) outer where
  here := h.here_note hc hclose
  around := by
    have hbehind := h.here.behind
    have hopens := h.here.opens.height_eq
    have habove := (h.here_note hc hclose).above (k + 1) (by omega) (Nat.le_refl _)
    exact h.around.next (by omega) (by omega)
  seen s hs hlt := by
    rcases Nat.lt_or_eq_of_le (Nat.le_of_lt_succ hlt) with hlt | rfl
    · rcases h.seen s hs hlt with rfl | hmem | ⟨t, ht, hlevel⟩
      · exact .inl rfl
      · exact .inr (.inl hmem)
      · exact .inr (.inr ⟨t, Nat.lt_succ_of_lt ht, hlevel⟩)
    · exact absurd hs hnest
  passed := h.passed_succ fun _ hrefused => h.not_isLevel hc hclose hrefused.level

/-- A level inside begins. -/
theorem nest (h : Scanning src k start level outer) (hopens : Opens src k) :
    Scanning src (k + 1) k Level.fresh ((start, level.note k '$') :: outer) where
  here := by
    refine ⟨hopens, Nat.lt_succ_self k, Nat.le_refl _, fun i hi hle => by omega, ?_, ?_⟩
    · rw [Level.parens_fresh, Int.sub_self]
      rfl
    · refine .of_not_owns (fun i howns => ?_) rfl rfl
      have hlt := howns.lt
      omega
  around := by
    have hnote := h.here_note hopens.dollar (by simp)
    have hgap := h.add_two_le hopens.dollar (by decide)
    have habove := hnote.above (k + 1) (by omega) (Nat.le_refl _)
    have hheight := h.here.opens.height_eq
    exact .level hnote hgap (h.around.next (by omega) (by omega))
  seen s hs hlt := by
    rcases Nat.lt_or_eq_of_le (Nat.le_of_lt_succ hlt) with hlt | rfl
    · rcases h.seen s hs hlt with rfl | hmem | ⟨t, ht, hlevel⟩
      · exact .inr (.inl List.mem_cons_self)
      · exact .inr (.inl (List.mem_cons_of_mem _ hmem))
      · exact .inr (.inr ⟨t, Nat.lt_succ_of_lt ht, hlevel⟩)
    · exact .inl rfl
  passed := h.passed_succ fun _ hrefused =>
    h.not_isLevel hopens.dollar (by simp) hrefused.level

/-- The innermost open level is closed, and the one around it goes on. -/
theorem close {a : Nat} {around : Level}
    (h : Scanning src k start level ((a, around) :: outer)) (hlevel : IsLevel src start k)
    (hfine : ¬IsRefused src start k) : Scanning src (k + 1) a around outer := by
  cases h.around with
  | level haround hgap houter =>
      have hbehind := hlevel.behind
      have hheight := hlevel.height_behind
      have hopens := hlevel.opens.height_eq
      have hground := haround.above start hgap (by omega)
      have houtside := haround.opens.height_eq
      refine ⟨⟨haround.opens, by omega, Nat.le_refl _, (haround.next (by omega)).above, ?_, ?_⟩,
        houter.next (by omega) (by omega), fun s hs hlt => ?_, ?_⟩
      · have hcount := haround.parens
        omega
      · exact haround.records.congr fun i => Owns.closed_iff hlevel (by omega)
      · rcases Nat.lt_or_eq_of_le (Nat.le_of_lt_succ hlt) with hlt | rfl
        · rcases h.seen s hs hlt with rfl | hmem | ⟨t, ht, hearlier⟩
          · exact .inr (.inr ⟨k, Nat.lt_succ_self k, hlevel⟩)
          · rcases List.mem_cons.mp hmem with rfl | hmem
            · exact .inl rfl
            · exact .inr (.inl hmem)
          · exact .inr (.inr ⟨t, Nat.lt_succ_of_lt ht, hearlier⟩)
        · have hboth := hs.dollar.symm.trans hlevel.closes
          cases hboth
      · refine h.passed_succ fun s hrefused => ?_
        obtain rfl := h.eq_start_of_isLevel hrefused.level
        exact hfine hrefused

end Scanning

/-! ## §4  The whole pass -/

/-- What the way in which the pass over a reference ends says about the levels of the reference,
places counted from its `$`. -/
def Explains (src : List Char) : PropertyEnd → Prop
  | .closed m => IsLevel src 0 m ∧ ∀ s t, t ≤ m → ¬IsRefused src s t
  | .stray i c => ∃ s t, IsRefused src s t ∧ (∀ m, IsLevel src 0 m → t ≤ m) ∧
      Owns src s t i ∧ src[i]? = some c ∧ isBlank c = true
  | .missing => (∀ m, ¬IsLevel src 0 m) ∧ ∀ s t, ¬IsRefused src s t

theorem Scanning.explains {cs : List Char} (h : Scanning src k start level outer)
    (hrest : src.drop k = cs) :
    Explains src (propertyEnd (outer.map Prod.snd) level k cs) := by
  induction cs generalizing k start level outer with
  | nil =>
      have hlength : src.length ≤ k := List.drop_eq_nil_iff.mp hrest
      have hstop : ∀ {s t}, IsLevel src s t → t < k := fun hlevel =>
        Nat.lt_of_lt_of_le (List.getElem?_eq_some_iff.mp hlevel.closes).1 hlength
      refine ⟨fun m hlevel => ?_, fun s t hrefused => ?_⟩
      · exact absurd (hstop hlevel) (Nat.not_lt_of_le (h.le_of_isLevel hlevel))
      · exact h.passed s t (hstop hrefused.level) hrefused
  | cons c cs ih =>
      obtain ⟨hc, hnext⟩ := of_drop_eq_cons hrest
      by_cases hclose : c = ')' ∧ level.parens ≤ 1
      · obtain ⟨rfl, hparens⟩ := hclose
        have hlevel := h.isLevel hc hparens
        rw [propertyEnd_close hparens]
        cases hstray : level.strayBlank? with
        | some b =>
            obtain ⟨hrefused, howns, hb⟩ := h.here.records.isRefused hlevel hstray
            exact ⟨start, k, hrefused, fun m => h.le_of_isLevel, howns, hb⟩
        | none =>
            have hfine := h.here.records.not_isRefused hstray
            cases outer with
            | nil =>
                cases h.around
                refine ⟨hlevel, fun s t ht => h.passed_succ (fun s hrefused => ?_) s t (by omega)⟩
                obtain rfl := h.eq_start_of_isLevel hrefused.level
                exact hfine hrefused
            | cons around outer => exact ih (h.close hlevel hfine) hnext
      · by_cases hnest : c = '$' ∧ cs.head? = some '('
        · obtain ⟨rfl, hhead⟩ := hnest
          have hparen : src[k + 1]? = some '(' := by
            rw [← List.head?_drop, hnext, hhead]
          rw [propertyEnd_nest hclose ⟨rfl, hhead⟩]
          exact ih (h.nest ⟨hc, hparen⟩) hnext
        · rw [propertyEnd_note hclose hnest]
          refine ih (h.note hc hclose fun hopens => hnest ⟨?_, ?_⟩) hnext
          · exact Option.some.inj (hc.symm.trans hopens.dollar)
          · rw [← hnext, List.head?_drop, hopens.paren]

/-- The pass starts with the first level open and nothing seen of its text. -/
theorem scanning_start (h : Opens src 0) : Scanning src 1 0 Level.fresh [] where
  here := by
    refine ⟨h, Nat.zero_lt_one, Nat.le_refl _, fun i hi hle => by omega, ?_, ?_⟩
    · rw [Level.parens_fresh, Int.sub_self]
      rfl
    · refine .of_not_owns (fun i howns => ?_) rfl rfl
      have hlt := howns.lt
      omega
  around := .first
  seen s _ hlt := .inl (by omega)
  passed s t ht hrefused := by
    have hbehind := hrefused.level.behind
    omega

end Lexeme

/-! ## §5  References that are refused -/

/-- Reading a reference comes to a level that is refused: one that is closed before the reference
is, or with it, or any if the reference is not closed. -/
def MeetsRefused (src : List Char) : Prop :=
  ∃ start stop, IsRefused src start stop ∧ ∀ own, IsLevel src 0 own → stop ≤ own

namespace Lexeme

variable {body : List Char} {own : Nat}

/-- What is read at the beginning of a reference to a property. -/
theorem readLexeme_property (mode : Mode) : readLexeme mode '$' ('(' :: body) =
    match propertyEnd [] Level.fresh 1 ('(' :: body) with
    | .closed k => .ok (referenceUpTo .property (k - 2) body)
    | .stray k c => .error ⟨.blankInProperty, some (String.singleton c), k, 0⟩
    | .missing => .error ⟨.propertyNotClosed, some Terminal.endName, 0, 0⟩ := rfl

theorem explains_property (body : List Char) :
    Explains ('$' :: '(' :: body) (propertyEnd [] Level.fresh 1 ('(' :: body)) :=
  (scanning_start ⟨rfl, rfl⟩).explains rfl

/-- A reference takes the characters up to the parenthesis that closes it. -/
theorem width_of_isLevel (h : IsLevel ('$' :: '(' :: body) 0 own) :
    (referenceUpTo .property (own - 2) body).width = own + 1 := by
  have hbehind := h.behind
  have hlength : own < body.length + 2 := (List.getElem?_eq_some_iff.mp h.closes).1
  simp only [referenceUpTo, width, source, text, isQuoted, Reference.text, Sigil.char,
    String.length_ofList, String.toList_ofList, List.length_cons, List.length_append,
    List.length_take, List.length_nil, Bool.false_eq_true, if_false]
  omega

end Lexeme

namespace Scanner

open Lexeme

variable {s : Scanner} {body : List Char} {own : Nat}

theorem advance_of_ok {c : Char} {cs : List Char} {l : Lexeme} (h : s.skipBlanks.rest = c :: cs)
    (hread : readLexeme s.skipBlanks.mode c cs = .ok l) : s.advance =
      ({ s.skipBlanks.pass l with current := .token ⟨l, s.skipBlanks.position⟩ }, .ok true) := by
  simp only [advance, h, hread]

theorem advance_of_error {c : Char} {cs : List Char} {fault : Fault}
    (h : s.skipBlanks.rest = c :: cs)
    (hread : readLexeme s.skipBlanks.mode c cs = .error fault) :
    s.advance.2 = .error (fault.failure s.skipBlanks.position) := by
  simp only [advance, h, hread]

theorem advance_of_closed (h : s.skipBlanks.rest = '$' :: '(' :: body)
    (hend : propertyEnd [] Level.fresh 1 ('(' :: body) = .closed own)
    (hlevel : IsLevel ('$' :: '(' :: body) 0 own) :
    s.advance = ({ s.skipBlanks.skip (own + 1) with
      current := .token ⟨.reference ⟨.property,
        String.ofList (between ('$' :: '(' :: body) 2 own)⟩, s.skipBlanks.position⟩ },
      .ok true) := by
  have hbetween : between ('$' :: '(' :: body) 2 own = body.take (own - 2) := List.drop_take
  have hpass : s.skipBlanks.pass (referenceUpTo .property (own - 2) body) =
      s.skipBlanks.skip (own + 1) := congrArg s.skipBlanks.skip (width_of_isLevel hlevel)
  rw [advance_of_ok h (by rw [readLexeme_property, hend]), hbetween, ← hpass]
  rfl

/-- **Which references to properties are refused.** Where a scanner comes to `$(`, it fails for a
blank exactly if it meets a level that is refused, and it points to a blank in the text of such a
level. Otherwise it reads the reference up to the parenthesis that closes it, and it fails for want
of that if there is none. -/
theorem property_refused_iff (h : s.skipBlanks.rest = '$' :: '(' :: body) :
    let src := '$' :: '(' :: body
    let place := s.skipBlanks.position
    ((∃ f, s.advance.2 = .error f ∧ f.cause = .blankInProperty) ↔ MeetsRefused src) ∧
      (MeetsRefused src → ∃ start stop i c, IsRefused src start stop ∧
        (∀ own, IsLevel src 0 own → stop ≤ own) ∧ Owns src start stop i ∧ src[i]? = some c ∧
        isBlank c = true ∧ s.advance.2 =
          .error (Failure.foundAt .blankInProperty (place + i + 1) (String.singleton c))) ∧
      (¬MeetsRefused src →
        (∀ own, IsLevel src 0 own → s.advance = ({ s.skipBlanks.skip (own + 1) with
          current := .token ⟨.reference ⟨.property, String.ofList (between src 2 own)⟩, place⟩ },
          .ok true)) ∧
        ((∀ own, ¬IsLevel src 0 own) → s.advance.2 =
          .error (Failure.foundAt .propertyNotClosed (place + 1) Terminal.endName))) := by
  intro src place
  have hexplains := explains_property body
  cases hend : propertyEnd [] Level.fresh 1 ('(' :: body) with
  | closed own =>
      rw [hend] at hexplains
      obtain ⟨hlevel, hnone⟩ := hexplains
      have hadvance := advance_of_closed h hend hlevel
      have hmeets : ¬MeetsRefused src := fun ⟨start, stop, hrefused, hbefore⟩ =>
        hnone start stop (hbefore own hlevel) hrefused
      refine ⟨⟨fun ⟨f, hf, _⟩ => ?_, fun hm => absurd hm hmeets⟩, fun hm => absurd hm hmeets,
        fun _ => ⟨fun own' hlevel' => ?_, fun hopen => absurd hlevel (hopen own)⟩⟩
      · rw [hadvance] at hf
        cases hf
      · obtain rfl := hlevel.stop_unique hlevel'
        exact hadvance
  | stray i c =>
      rw [hend] at hexplains
      obtain ⟨start, stop, hrefused, hbefore, howns, hc, hblank⟩ := hexplains
      have hadvance := advance_of_error h (by rw [readLexeme_property, hend])
      have hmeets : MeetsRefused src := ⟨start, stop, hrefused, hbefore⟩
      exact ⟨⟨fun _ => hmeets, fun _ => ⟨_, hadvance, rfl⟩⟩,
        fun _ => ⟨start, stop, i, c, hrefused, hbefore, howns, hc, hblank, hadvance⟩,
        fun hm => absurd hmeets hm⟩
  | missing =>
      rw [hend] at hexplains
      obtain ⟨hopen, hnone⟩ := hexplains
      have hadvance := advance_of_error h (by rw [readLexeme_property, hend])
      have hmeets : ¬MeetsRefused src := fun ⟨start, stop, hrefused, _⟩ =>
        hnone start stop hrefused
      refine ⟨⟨fun ⟨f, hf, hcause⟩ => ?_, fun hm => absurd hm hmeets⟩, fun hm => absurd hm hmeets,
        fun _ => ⟨fun own hlevel => absurd hlevel (hopen own), fun _ => hadvance⟩⟩
      rw [hadvance] at hf
      cases hf
      cases hcause

/-- The blank is in the level inside, which is closed first; the one around it is not closed. -/
theorem property_refused_iff_nested :
    let s := Scanner.start .everything " $(a.B($(c ))"
    let src := ['$', '(', 'a', '.', 'B', '(', '$', '(', 'c', ' ', ')', ')']
    s.skipBlanks.rest = src ∧ MeetsRefused src ∧ ∃ start stop i c, IsRefused src start stop ∧
      (∀ own, IsLevel src 0 own → stop ≤ own) ∧ Owns src start stop i ∧ src[i]? = some c ∧
      isBlank c = true ∧ s.advance.2 =
        .error (Failure.foundAt .blankInProperty (1 + i + 1) (String.singleton c)) := by
  intro s src
  have hrest : s.skipBlanks.rest = src := rfl
  obtain ⟨hiff, hmeets, _⟩ := property_refused_iff hrest
  have hrefused : MeetsRefused src := hiff.mp ⟨_, rfl, rfl⟩
  exact ⟨hrest, hrefused, hmeets hrefused⟩

/-- Parentheses should make a blank between them legal, but the blank is refused: the text of the
only level is not made of names and blanks alone. -/
theorem property_refused_between_parentheses :
    let src := "$(x.Replace(a b))".toList
    tokenize .everything "$(x.Replace(a b))" =
        .error (Failure.foundAt .blankInProperty 14 " ") ∧
      ∀ start stop, IsLevel src start stop →
        ∃ i c, Owns src start stop i ∧ src[i]? = some c ∧ isBlank c = false ∧
          isNameChar c = false := by
  intro src
  have hplace : ∀ {i c}, src[i]? = some c → i < 17 := fun h => (List.getElem?_eq_some_iff.mp h).1
  have hdollar : ∀ i < 17, src[i]? = some '$' → i = 0 := by decide
  have hclose : ∀ i < 17, src[i]? = some ')' → 11 < i := by decide
  refine ⟨by rfl, fun start stop h => ⟨11, '(', ⟨?_, ?_, ?_⟩, rfl, rfl, rfl⟩⟩
  · obtain rfl := hdollar start (hplace h.opens.dollar) h.opens.dollar
    exact Nat.le_of_ble_eq_true rfl
  · exact hclose stop (hplace h.closes) h.closes
  · -- there is no other level
    intro s t h' hs _
    rw [hdollar s (hplace h'.opens.dollar) h'.opens.dollar] at hs
    exact absurd hs (Nat.not_lt_zero _)

end Scanner

end BuildCondition
