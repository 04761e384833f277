import Mathlib.Tactic.SplitIfs
import CycleLedger.Json.Token

/-! # Spellings of tokens

A spelling lists the bytes of tokens with any blanks before each. Cutting a spelling into tokens
gives them back, and cutting a beginning of it gives a beginning of them, of which the last one may
be broken off by the end of the bytes.
-/

namespace CycleLedger.Json

/-- A beginning of two joined lists ends inside the first or goes on in the second. -/
theorem prefix_append_cases {α : Type} {p a b : List α} (h : p <+: a ++ b) :
    (p <+: a ∧ p ≠ a) ∨ ∃ q, p = a ++ q ∧ q <+: b := by
  obtain ⟨r, hr⟩ := h
  rcases List.append_eq_append_iff.mp hr with ⟨c, hc, _⟩ | ⟨c, hc, hb⟩
  · by_cases hp : p = a
    · exact .inr ⟨[], by simp [hp], List.nil_prefix⟩
    · exact .inl ⟨⟨c, hc.symm⟩, hp⟩
  · exact .inr ⟨c, hc, ⟨r, hb.symm⟩⟩

namespace Lexer

/-- The tokens that the bytes complete from a state on. -/
def tokensFrom (l : Lexer) : List UInt8 → List Token
  | [] => l.finish
  | b :: bytes => (l.step b).2 ++ (l.step b).1.tokensFrom bytes

theorem foldl_eq_tokensFrom (l : Lexer) (done : List Token) (bytes : List UInt8) :
    (bytes.foldl (fun (l, done) b => ((l.step b).1, (l.step b).2.reverse ++ done))
          (l, done)).2.reverse ++
        (bytes.foldl (fun (l, done) b => ((l.step b).1, (l.step b).2.reverse ++ done))
          (l, done)).1.finish =
      done.reverse ++ l.tokensFrom bytes := by
  induction bytes generalizing l done with
  | nil => rfl
  | cons b bytes ih =>
    rw [List.foldl_cons, ih, tokensFrom]
    simp

end Lexer

theorem tokens_eq_tokensFrom (bytes : List UInt8) :
    tokens bytes = Lexer.between.tokensFrom bytes := by
  simpa [tokens, Lexer.run] using Lexer.foldl_eq_tokensFrom .between [] bytes

/-! ## Blanks and marks -/

/-- The byte may stand behind a value: a blank, a comma or a closing bracket. -/
def Ascii.breaks (b : UInt8) : Bool :=
  isBlank b || b == comma || b == closeBracket || b == closeBrace

theorem Ascii.isBlank_cases {b : UInt8} (h : isBlank b = true) :
    b = space ∨ b = lineFeed ∨ b = tab ∨ b = carriageReturn := by
  simpa [isBlank, or_assoc] using h

theorem Lexer.step_blank {b : UInt8} (h : Ascii.isBlank b = true) :
    Lexer.between.step b = (.between, []) := by
  rcases Ascii.isBlank_cases h with rfl | rfl | rfl | rfl <;> rfl

theorem Lexer.tokensFrom_blanks {blanks : List UInt8} (h : ∀ b ∈ blanks, Ascii.isBlank b = true)
    (rest : List UInt8) :
    Lexer.between.tokensFrom (blanks ++ rest) = Lexer.between.tokensFrom rest := by
  induction blanks with
  | nil => rfl
  | cons b blanks ih =>
    rw [List.cons_append, tokensFrom, step_blank (h b (by simp))]
    exact ih fun c hc => h c (by simp [hc])

/-! ## Words -/

namespace Word

def bytes : Word → List UInt8
  | null => Ascii.lowerN :: remaining null
  | true => Ascii.lowerT :: remaining true
  | false => Ascii.lowerF :: remaining false

theorem bytes_eq (w : Word) :
    ∃ b, w.bytes = b :: w.remaining ∧ Lexer.between.step b = (.word w w.remaining, []) := by
  cases w <;> exact ⟨_, rfl, rfl⟩

end Word

theorem Lexer.tokensFrom_word (w : Word) (c : UInt8) (cs rest : List UInt8) :
    (Lexer.word w (c :: cs)).tokensFrom (c :: cs ++ rest) =
      .word w none :: Lexer.between.tokensFrom rest := by
  induction cs generalizing c with
  | nil => simp [tokensFrom, step]
  | cons d cs ih =>
    rw [List.cons_append, tokensFrom]
    simpa [step] using ih d

theorem Lexer.tokensFrom_word_cut (w : Word) {p cs : List UInt8} (h : p <+: cs) (hne : p ≠ cs) :
    (Lexer.word w cs).tokensFrom p = [.word w (some .truncated)] := by
  induction cs generalizing p with
  | nil => exact absurd (List.prefix_nil.mp h) hne
  | cons c cs ih =>
    rcases List.prefix_cons_iff.mp h with rfl | ⟨q, rfl, hq⟩
    · rfl
    · have hq' : q ≠ cs := fun e => hne (by rw [e])
      cases cs with
      | nil => exact absurd (List.prefix_nil.mp hq) hq'
      | cons d cs =>
        rw [tokensFrom]
        simpa [step] using ih hq hq'

/-! ## Numerals -/

namespace Numeral

/-- The numeral that the bytes are, all of them. -/
def ofBytes? : List UInt8 → Option Numeral
  | [] => none
  | b :: bytes => ((Scan.start? b).bind (bytes.foldlM Scan.step?)).bind Scan.finish?

/-- A numeral goes on with none of the bytes that may stand behind a value. -/
theorem Scan.step?_breaks (s : Scan) {b : UInt8} (h : Ascii.breaks b = true) :
    s.step? b = none ∧ s.spoils b = false := by
  have cases : b = Ascii.space ∨ b = Ascii.lineFeed ∨ b = Ascii.tab ∨ b = Ascii.carriageReturn ∨
      b = Ascii.comma ∨ b = Ascii.closeBracket ∨ b = Ascii.closeBrace := by
    simpa [Ascii.breaks, Ascii.isBlank, or_assoc] using h
  rcases cases with rfl | rfl | rfl | rfl | rfl | rfl | rfl <;> cases s <;> exact ⟨rfl, rfl⟩

theorem Scan.start?_cases {b : UInt8} {s : Scan} (h : start? b = some s) :
    b = Ascii.minus ∨ Ascii.isDigit b = true := by
  unfold start? at h
  split_ifs at h with minus zero digit
  · exact .inl (by simpa using minus)
  · obtain rfl : b = Ascii.zero := by simpa using zero
    exact .inr (by decide)
  · exact .inr digit

theorem Scan.start?_ne {b c : UInt8} {s : Scan} (h : start? b = some s)
    (hc : c ≠ Ascii.minus ∧ Ascii.isDigit c = false) : b ≠ c := by
  rintro rfl
  rcases start?_cases h with rfl | digit
  · exact hc.1 rfl
  · simp [hc.2] at digit

end Numeral

theorem Lexer.step_numeral {b : UInt8} {s : Numeral.Scan} (h : Numeral.Scan.start? b = some s) :
    Lexer.between.step b = (.number s, []) := by
  have ne (c : UInt8) (hc : c ≠ Ascii.minus ∧ Ascii.isDigit c = false) : b ≠ c :=
    Numeral.Scan.start?_ne h hc
  have notBlank : Ascii.isBlank b = false := by
    simp only [Ascii.isBlank, Bool.or_eq_false_iff, beq_eq_false_iff_ne]
    exact ⟨⟨⟨ne _ (by decide), ne _ (by decide)⟩, ne _ (by decide)⟩, ne _ (by decide)⟩
  have start : Lexer.start b = (.number s, none) := by
    unfold Lexer.start
    split
    case h_11 => simp [notBlank, h]
    all_goals exact absurd rfl (ne _ (by decide))
  simp [step, start]

theorem Lexer.tokensFrom_number {s s' : Numeral.Scan} {bytes : List UInt8}
    (h : bytes.foldlM Numeral.Scan.step? s = some s') (rest : List UInt8) :
    (Lexer.number s).tokensFrom (bytes ++ rest) = (Lexer.number s').tokensFrom rest := by
  induction bytes generalizing s with
  | nil =>
    obtain rfl : s = s' := by simpa using h
    rfl
  | cons b bytes ih =>
    obtain ⟨s₁, hs₁, h⟩ : ∃ s₁, s.step? b = some s₁ ∧
        bytes.foldlM Numeral.Scan.step? s₁ = some s' := by
      simpa [List.foldlM_cons, Option.bind_eq_some_iff] using h
    rw [List.cons_append, tokensFrom]
    simpa [step, hs₁] using ih h

theorem Lexer.tokensFrom_number_end {s : Numeral.Scan} {n : Numeral} (h : s.finish? = some n)
    {rest : List UInt8} (hrest : ∀ b ∈ rest.head?, Ascii.breaks b = true) :
    (Lexer.number s).tokensFrom rest = .number (.ok n) :: Lexer.between.tokensFrom rest := by
  cases rest with
  | nil => simp [tokensFrom, finish, h]
  | cons b rest =>
    obtain ⟨stops, clean⟩ := s.step?_breaks (hrest b rfl)
    simp [tokensFrom, step, stops, h, clean]

/-! ## Texts -/

namespace Quoted.Scan

/-- The text that the last of the bytes, and none before it, ends. -/
def closed? (s : Scan) : List UInt8 → Option Quoted
  | [] => none
  | b :: bytes => match s.step b with
    | .inl s => s.closed? bytes
    | .inr q => if bytes = [] then some q else none

/-- One more byte keeps the units that were read. -/
theorem units_step {s s' : Scan} {b : UInt8} (h : s.step b = .inl s') :
    s.units.reverse <+: s'.units.reverse := by
  cases s with
  | plain us =>
    simp only [step] at h
    split_ifs at h <;> cases h <;> simp [units]
  | escape us =>
    simp only [step] at h
    split_ifs at h
    · cases h
      simp [units]
    · split at h <;> cases h
      simp [units]
  | hex us left value? =>
    simp only [step] at h
    split at h <;> cases h <;> simp [units]

theorem units_closed? {s : Scan} {bytes : List UInt8} {q : Quoted} (h : s.closed? bytes = some q)
    (hq : q.fault? = none) : s.units.reverse <+: q.units := by
  induction bytes generalizing s with
  | nil => cases h
  | cons b bytes ih =>
    rw [closed?] at h
    split at h
    · exact (units_step ‹_›).trans (ih h)
    · rename_i q' hstep
      split_ifs at h with hbytes
      cases h
      cases s with
      | plain us =>
        simp only [step] at hstep
        split_ifs at hstep <;> cases hstep <;> simp [close, units]
      | escape us =>
        simp only [step] at hstep
        split_ifs at hstep
        split at hstep <;> cases hstep
        simp [close, units]
      | hex us left value? =>
        simp only [step] at hstep
        split at hstep <;> cases hstep
        simp [close, units]

end Quoted.Scan

theorem Lexer.tokensFrom_quoted {s : Quoted.Scan} {bytes : List UInt8} {q : Quoted}
    (h : s.closed? bytes = some q) (hq : q.fault? = none) (rest : List UInt8) :
    (Lexer.quoted s).tokensFrom (bytes ++ rest) = .text q :: Lexer.between.tokensFrom rest := by
  induction bytes generalizing s with
  | nil => cases h
  | cons b bytes ih =>
    rw [Quoted.Scan.closed?] at h
    rw [List.cons_append, tokensFrom, step]
    cases hstep : s.step b with
    | inl s' =>
      rw [hstep] at h
      exact ih h
    | inr q' =>
      simp only [hstep] at h
      split_ifs at h with hbytes
      obtain rfl := Option.some.inj h
      simp [hq, hbytes]

theorem Lexer.tokensFrom_quoted_cut {s : Quoted.Scan} {p bytes : List UInt8} {q : Quoted}
    (h : s.closed? bytes = some q) (hq : q.fault? = none) (hp : p <+: bytes) (hne : p ≠ bytes) :
    ∃ us, us <+: q.units ∧ (Lexer.quoted s).tokensFrom p = [.text ⟨us, some .truncated⟩] := by
  induction bytes generalizing s p with
  | nil => cases h
  | cons b bytes ih =>
    rcases List.prefix_cons_iff.mp hp with rfl | ⟨p', rfl, hp'⟩
    · exact ⟨s.units.reverse, Quoted.Scan.units_closed? h hq, rfl⟩
    · have hne' : p' ≠ bytes := fun e => hne (by rw [e])
      rw [Quoted.Scan.closed?] at h
      split at h
      · rename_i s' hstep
        obtain ⟨us, hus, hcut⟩ := ih h hp' hne'
        exact ⟨us, hus, by simpa [tokensFrom, step, hstep] using hcut⟩
      · split_ifs at h with hbytes
        subst hbytes
        exact absurd (List.prefix_nil.mp hp') hne'

/-! ## Spellings -/

variable (numerals : List UInt8 → Prop)

/-- The bytes of one token; a numeral may be any of those that `numerals` allows. -/
inductive Token.Spelled : Token → List UInt8 → Prop
  | mark {b : UInt8} {t : Token} (h : Lexer.start b = (.between, some t)) : Spelled t [b]
  | word (w : Word) : Spelled (.word w none) w.bytes
  | number {n : Numeral} {bytes : List UInt8} (allowed : numerals bytes)
      (h : Numeral.ofBytes? bytes = some n) : Spelled (.number (.ok n)) bytes
  | text {q : Quoted} {bytes : List UInt8} (h : (Quoted.Scan.plain []).closed? bytes = some q)
      (whole : q.fault? = none) : Spelled (.text q) (Ascii.quote :: bytes)

/-- Only a numeral has to be told apart from what follows it. -/
def Token.EndsBefore (t : Token) (rest : List UInt8) : Prop :=
  match t with
  | .number _ => ∀ b ∈ rest.head?, Ascii.breaks b = true
  | _ => True

inductive Spelling : List Token → List UInt8 → Prop
  | nil : Spelling [] []
  | cons {blanks bytes rest : List UInt8} {t : Token} {ts : List Token}
      (blank : ∀ b ∈ blanks, Ascii.isBlank b = true) (spelled : t.Spelled numerals bytes)
      (ends : t.EndsBefore rest) (tail : Spelling ts rest) :
      Spelling (t :: ts) (blanks ++ (bytes ++ rest))

/-- A numeral that stands at the beginning of the bytes of another one. -/
def Numeral.Begins (k n : Numeral) : Prop :=
  ∃ p bytes, numerals bytes ∧ ofBytes? bytes = some n ∧ p <+: bytes ∧ ofBytes? p = some k

/-- What the end of the bytes leaves of a token that it cuts. -/
inductive Token.Cut : Token → Token → Prop
  | word (w : Word) : Cut (.word w none) (.word w (some .truncated))
  | numeral (n : Numeral) : Cut (.number (.ok n)) (.number (.error .truncated))
  | shorter {k n : Numeral} (h : k.Begins numerals n) : Cut (.number (.ok n)) (.number (.ok k))
  | text {q : Quoted} {units : List TextUnit} (h : units <+: q.units) :
      Cut (.text q) (.text ⟨units, some .truncated⟩)

/-- What the end of the bytes leaves of tokens of which it cuts one or leaves one out. -/
inductive TokensCut : List Token → List Token → Prop
  | ended (t : Token) (ts : List Token) : TokensCut (t :: ts) []
  | token {t t' : Token} (h : t.Cut numerals t') (ts : List Token) : TokensCut (t :: ts) [t']
  | cons (t : Token) {ts ts' : List Token} (h : TokensCut ts ts') : TokensCut (t :: ts) (t :: ts')

variable {numerals}

namespace Token

theorem Spelled.tokensFrom {t : Token} {bytes rest : List UInt8} (h : t.Spelled numerals bytes)
    (ends : t.EndsBefore rest) :
    Lexer.between.tokensFrom (bytes ++ rest) = t :: Lexer.between.tokensFrom rest := by
  cases h with
  | mark h => simp [Lexer.tokensFrom, Lexer.step, h]
  | word w =>
    obtain ⟨b, hb, hstep⟩ := w.bytes_eq
    rw [hb, List.cons_append, Lexer.tokensFrom, hstep]
    cases w <;> exact Lexer.tokensFrom_word ..
  | @number n bytes _ h =>
    cases bytes with
    | nil => cases h
    | cons b bytes =>
      obtain ⟨s', ⟨s, hs, hrun⟩, hn⟩ : ∃ s', (∃ s, Numeral.Scan.start? b = some s ∧
          bytes.foldlM Numeral.Scan.step? s = some s') ∧ s'.finish? = some n := by
        simpa only [Numeral.ofBytes?, Option.bind_eq_some_iff] using h
      rw [List.cons_append, Lexer.tokensFrom, Lexer.step_numeral hs]
      simp [Lexer.tokensFrom_number hrun, Lexer.tokensFrom_number_end hn ends]
  | text h whole =>
    rw [List.cons_append, Lexer.tokensFrom]
    exact Lexer.tokensFrom_quoted h whole rest

/-- A beginning of the bytes of a token is a cut of the token. -/
theorem Spelled.tokensFrom_cut {t : Token} {p bytes : List UInt8} (h : t.Spelled numerals bytes)
    (hp : p <+: bytes) (hne : p ≠ bytes) (hnil : p ≠ []) :
    ∃ t', t.Cut numerals t' ∧ Lexer.between.tokensFrom p = [t'] := by
  cases h with
  | mark h =>
    rcases List.prefix_cons_iff.mp hp with rfl | ⟨q, rfl, hq⟩
    · exact absurd rfl hnil
    · exact absurd (by rw [List.prefix_nil.mp hq]) hne
  | word w =>
    obtain ⟨b, hb, hstep⟩ := w.bytes_eq
    rw [hb] at hp hne
    rcases List.prefix_cons_iff.mp hp with rfl | ⟨q, rfl, hq⟩
    · exact absurd rfl hnil
    · refine ⟨_, .word w, ?_⟩
      rw [Lexer.tokensFrom, hstep]
      exact Lexer.tokensFrom_word_cut w hq fun e => hne (by rw [e])
  | @number n bytes allowed h =>
    cases p with
    | nil => exact absurd rfl hnil
    | cons b p =>
      obtain ⟨r, rfl⟩ := hp
      obtain ⟨s', ⟨s, hs, hrun⟩, -⟩ : ∃ s', (∃ s, Numeral.Scan.start? b = some s ∧
          (p ++ r).foldlM Numeral.Scan.step? s = some s') ∧ s'.finish? = some n := by
        simpa only [Numeral.ofBytes?, List.cons_append, Option.bind_eq_some_iff] using h
      obtain ⟨s₁, hs₁, -⟩ : ∃ s₁, p.foldlM Numeral.Scan.step? s = some s₁ ∧
          r.foldlM Numeral.Scan.step? s₁ = some s' := by
        simpa [List.foldlM_append, Option.bind_eq_some_iff] using hrun
      have read : Lexer.between.tokensFrom (b :: p) = (Lexer.number s₁).finish := by
        rw [Lexer.tokensFrom, Lexer.step_numeral hs]
        simpa [Lexer.tokensFrom] using Lexer.tokensFrom_number hs₁ []
      cases hk : s₁.finish? with
      | none => exact ⟨_, .numeral n, by simp [read, Lexer.finish, hk]⟩
      | some k =>
        have begins : k.Begins numerals n :=
          ⟨b :: p, _, allowed, h, List.prefix_append _ _, by simp [Numeral.ofBytes?, hs, hs₁, hk]⟩
        exact ⟨_, .shorter begins, by simp [read, Lexer.finish, hk]⟩
  | @text q bytes h whole =>
    rcases List.prefix_cons_iff.mp hp with rfl | ⟨q', rfl, hq'⟩
    · exact absurd rfl hnil
    · obtain ⟨us, hus, hcut⟩ :=
        Lexer.tokensFrom_quoted_cut h whole hq' fun e => hne (by rw [e])
      exact ⟨_, .text hus, by rw [Lexer.tokensFrom]; exact hcut⟩

theorem EndsBefore.mono {t : Token} {p rest : List UInt8} (h : t.EndsBefore rest)
    (hp : p <+: rest) : t.EndsBefore p := by
  obtain ⟨r, rfl⟩ := hp
  cases t with
  | number n =>
    cases p with
    | nil => simp [EndsBefore]
    | cons b p => simpa [EndsBefore] using h
  | _ => trivial

theorem EndsBefore.append_blanks {t : Token} {rest blanks : List UInt8} (h : t.EndsBefore rest)
    (blank : ∀ b ∈ blanks, Ascii.isBlank b = true) : t.EndsBefore (rest ++ blanks) := by
  cases t with
  | number n =>
    cases rest with
    | nil =>
      intro b hb
      simp [Ascii.breaks, blank b (List.mem_of_mem_head? hb)]
    | cons b rest => simpa [EndsBefore] using h
  | _ => trivial

end Token

namespace Spelling

/-- The bytes are cut into the tokens that they spell; blanks may follow. -/
theorem tokens_eq {ts : List Token} {bytes blanks : List UInt8} (h : Spelling numerals ts bytes)
    (blank : ∀ b ∈ blanks, Ascii.isBlank b = true) : tokens (bytes ++ blanks) = ts := by
  rw [tokens_eq_tokensFrom]
  induction h with
  | nil =>
    rw [List.nil_append, ← List.append_nil blanks, Lexer.tokensFrom_blanks blank]
    rfl
  | cons before spelled ends tail ih =>
    rw [List.append_assoc, Lexer.tokensFrom_blanks before, List.append_assoc,
      spelled.tokensFrom (ends.append_blanks blank), ih]

/-- A beginning of the bytes is cut into what the end of the bytes leaves of the tokens. -/
theorem tokens_cut {ts : List Token} {p bytes : List UInt8} (h : Spelling numerals ts bytes)
    (hp : p <+: bytes) (hne : p ≠ bytes) : TokensCut numerals ts (tokens p) := by
  rw [tokens_eq_tokensFrom]
  induction h generalizing p with
  | nil => exact absurd (List.prefix_nil.mp hp) hne
  | @cons before bytes rest t ts blank spelled ends tail ih =>
    rcases prefix_append_cases hp with ⟨⟨r, hr⟩, _⟩ | ⟨q, rfl, hq⟩
    · have blankHere : ∀ b ∈ p, Ascii.isBlank b = true := fun b hb =>
        blank b (by rw [← hr]; simp [hb])
      have none := Lexer.tokensFrom_blanks blankHere []
      rw [List.append_nil] at none
      rw [none]
      exact .ended t ts
    · rw [Lexer.tokensFrom_blanks blank]
      rcases prefix_append_cases hq with ⟨hq, hqne⟩ | ⟨r, rfl, hr⟩
      · by_cases hnil : q = []
        · subst hnil
          exact .ended t ts
        · obtain ⟨t', cut, hcut⟩ := spelled.tokensFrom_cut hq hqne hnil
          rw [hcut]
          exact .token cut ts
      · rw [spelled.tokensFrom (ends.mono hr)]
        exact .cons t (ih hr fun e => hne (by rw [e]))

end Spelling

end CycleLedger.Json
