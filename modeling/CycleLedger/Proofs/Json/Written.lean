import CycleLedger.Proofs.Json.Numbers
import CycleLedger.Proofs.Json.Texts
import CycleLedger.Proofs.Json.Truncation

/-! # Written values

A value is written with or without blanks between its tokens. Either way its text spells the tokens
of its document, so it is read as the document, and a proper beginning of it as a cut of the
document.
-/

namespace CycleLedger.Json

open Text

/-- The blanks before the items and members of a level, and those behind a colon. -/
structure Spacing where
  line : Nat → List UInt8
  gap : List UInt8

namespace Spacing

def compact : Spacing := ⟨fun _ => [], []⟩

def indented : Spacing := ⟨fun level => Text.bytes (Value.newline level), [Ascii.space]⟩

structure Blank (s : Spacing) : Prop where
  line : ∀ level, ∀ b ∈ s.line level, Ascii.isBlank b = true
  gap : ∀ b ∈ s.gap, Ascii.isBlank b = true

theorem compact_blank : compact.Blank := ⟨nofun, nofun⟩

theorem indented_blank : indented.Blank where
  line level b hb := by
    have spaces : ∀ c ∈ '\n' :: List.replicate (2 * level) ' ', c.toNat < 128 := by
      intro c hc
      rcases List.mem_cons.mp hc with rfl | hc
      · decide
      · rw [List.eq_of_mem_replicate hc]
        decide
    have hb : b ∈ Text.bytes (Value.newline level) := hb
    rw [Value.newline, bytes_ofList, flatMap_ascii spaces] at hb
    obtain ⟨c, hc, rfl⟩ := List.mem_map.mp hb
    rcases List.mem_cons.mp hc with rfl | hc
    · rfl
    · rw [List.eq_of_mem_replicate hc]
      rfl
  gap b hb := by
    rw [indented, List.mem_singleton] at hb
    rw [hb]
    rfl

end Spacing

namespace Value

mutual

/-- The bytes of a value whose first line stands at the given level. -/
def laid (s : Spacing) (level : Nat) : Value → List UInt8
  | .null => Text.bytes "null"
  | .flag b => Text.bytes (if b then "true" else "false")
  | .integer n => Text.bytes (toString n)
  | .real x => Text.bytes (realText x)
  | .text t => Text.bytes (textText t)
  | .list [] => [Ascii.openBracket, Ascii.closeBracket]
  | .list (item :: items) =>
    Ascii.openBracket :: (s.line (level + 1) ++ (item.laid s (level + 1) ++
      (laidItems s (level + 1) items ++ (s.line level ++ [Ascii.closeBracket]))))
  | .object [] => [Ascii.openBrace, Ascii.closeBrace]
  | .object ((key, value) :: members) =>
    Ascii.openBrace :: (s.line (level + 1) ++ (Text.bytes (textText key) ++ Ascii.colon ::
      (s.gap ++ (value.laid s (level + 1) ++
        (laidMembers s (level + 1) members ++ (s.line level ++ [Ascii.closeBrace]))))))

/-- The bytes of the items behind another one. -/
def laidItems (s : Spacing) (level : Nat) : List Value → List UInt8
  | [] => []
  | item :: items =>
    Ascii.comma :: (s.line level ++ (item.laid s level ++ laidItems s level items))

def laidMembers (s : Spacing) (level : Nat) : List (String × Value) → List UInt8
  | [] => []
  | (key, value) :: members =>
    Ascii.comma :: (s.line level ++ (Text.bytes (textText key) ++ Ascii.colon ::
      (s.gap ++ (value.laid s level ++ laidMembers s level members))))

end

end Value

/-! ## Texts as bytes -/

@[simp] theorem bytes_openBracket : Text.bytes "[" = [Ascii.openBracket] := by rw [bytes_eq]; rfl

@[simp] theorem bytes_closeBracket : Text.bytes "]" = [Ascii.closeBracket] := by rw [bytes_eq]; rfl

@[simp] theorem bytes_openBrace : Text.bytes "\x7b" = [Ascii.openBrace] := by rw [bytes_eq]; rfl

@[simp] theorem bytes_closeBrace : Text.bytes "\x7d" = [Ascii.closeBrace] := by rw [bytes_eq]; rfl

@[simp] theorem bytes_comma : Text.bytes "," = [Ascii.comma] := by rw [bytes_eq]; rfl

@[simp] theorem bytes_colon : Text.bytes ":" = [Ascii.colon] := by rw [bytes_eq]; rfl

@[simp] theorem bytes_colonSpace : Text.bytes ": " = [Ascii.colon, Ascii.space] := by
  rw [bytes_eq]; rfl

@[simp] theorem bytes_brackets : Text.bytes "[]" = [Ascii.openBracket, Ascii.closeBracket] := by
  rw [bytes_eq]; rfl

@[simp] theorem bytes_braces : Text.bytes "\x7b\x7d" = [Ascii.openBrace, Ascii.closeBrace] := by
  rw [bytes_eq]; rfl

theorem bytes_null : Text.bytes "null" = Word.null.bytes := by rw [bytes_eq]; rfl

theorem bytes_true : Text.bytes "true" = Word.true.bytes := by rw [bytes_eq]; rfl

theorem bytes_false : Text.bytes "false" = Word.false.bytes := by rw [bytes_eq]; rfl

@[simp] theorem bytes_empty : Text.bytes "" = [] := by rw [bytes_eq]; rfl

mutual

theorem bytes_compact (level : Nat) : (v : Value) → Text.bytes v.compact = v.laid .compact level
  | .null | .flag _ | .integer _ | .real _ | .text _ => by rw [Value.compact, Value.laid]
  | .list [] => by simp [Value.compact, Value.compactItems, Value.laid]
  | .list (item :: items) => by
    simp [Value.compact, Value.laid, bytes_compactItems (level + 1) item items, Spacing.compact]
  | .object [] => by simp [Value.compact, Value.compactMembers, Value.laid]
  | .object ((key, value) :: members) => by
    simp [Value.compact, Value.laid, bytes_compactMembers (level + 1) key value members,
      Spacing.compact]
termination_by v => sizeOf v

theorem bytes_compactItems (level : Nat) : (item : Value) → (items : List Value) →
    Text.bytes (Value.compactItems (item :: items)) =
      item.laid .compact level ++ Value.laidItems .compact level items
  | item, [] => by simp [Value.compactItems, bytes_compact level item, Value.laidItems]
  | item, next :: items => by
    simp [Value.compactItems, bytes_compact level item, bytes_compactItems level next items,
      Value.laidItems, Spacing.compact]
termination_by item items => sizeOf (item :: items)

theorem bytes_compactMembers (level : Nat) : (key : String) → (value : Value) →
    (members : List (String × Value)) →
    Text.bytes (Value.compactMembers ((key, value) :: members)) =
      Text.bytes (textText key) ++ Ascii.colon ::
        (value.laid .compact level ++ Value.laidMembers .compact level members)
  | key, value, [] => by simp [Value.compactMembers, bytes_compact level value, Value.laidMembers]
  | key, value, (next, v) :: members => by
    simp [Value.compactMembers, bytes_compact level value,
      bytes_compactMembers level next v members, Value.laidMembers, Spacing.compact]
termination_by key value members => sizeOf ((key, value) :: members)

end

mutual

theorem bytes_indented (level : Nat) : (v : Value) →
    Text.bytes (v.indented level) = v.laid .indented level
  | .null | .flag _ | .integer _ | .real _ | .text _ => by rw [Value.indented, Value.laid]
  | .list [] => by simp [Value.indented, Value.laid]
  | .list (item :: items) => by
    simp [Value.indented, Value.laid, bytes_indentedItems (level + 1) item items, Spacing.indented]
  | .object [] => by simp [Value.indented, Value.laid]
  | .object ((key, value) :: members) => by
    simp [Value.indented, Value.laid, bytes_indentedMembers (level + 1) key value members,
      Spacing.indented]
termination_by v => sizeOf v

theorem bytes_indentedItems (level : Nat) : (item : Value) → (items : List Value) →
    Text.bytes (Value.indentedItems level (item :: items)) =
      Text.bytes (Value.newline level) ++
        (item.laid .indented level ++ Value.laidItems .indented level items)
  | item, [] => by simp [Value.indentedItems, bytes_indented level item, Value.laidItems]
  | item, next :: items => by
    simp [Value.indentedItems, bytes_indented level item, bytes_indentedItems level next items,
      Value.laidItems, Spacing.indented]
termination_by item items => sizeOf (item :: items)

theorem bytes_indentedMembers (level : Nat) : (key : String) → (value : Value) →
    (members : List (String × Value)) →
    Text.bytes (Value.indentedMembers level ((key, value) :: members)) =
      Text.bytes (Value.newline level) ++ (Text.bytes (textText key) ++
        Ascii.colon :: Ascii.space ::
          (value.laid .indented level ++ Value.laidMembers .indented level members))
  | key, value, [] => by simp [Value.indentedMembers, bytes_indented level value, Value.laidMembers]
  | key, value, (next, v) :: members => by
    simp [Value.indentedMembers, bytes_indented level value,
      bytes_indentedMembers level next v members, Value.laidMembers, Spacing.indented]
termination_by key value members => sizeOf ((key, value) :: members)

end

/-! ## Tokens of written values -/

namespace Spelling

variable {numerals : List UInt8 → Prop} {ts : List Token} {bytes rest blanks : List UInt8}

/-- Blanks may be added before a token. -/
theorem blanks_append (h : Spelling numerals ts bytes) (some : ts ≠ [])
    (blank : ∀ b ∈ blanks, Ascii.isBlank b = true) : Spelling numerals ts (blanks ++ bytes) := by
  cases h with
  | nil => exact absurd rfl some
  | @cons before bytes rest t ts blankBefore spelled ends tail =>
    rw [← List.append_assoc]
    refine .cons (fun b hb => ?_) spelled ends tail
    rcases List.mem_append.mp hb with hb | hb
    · exact blank b hb
    · exact blankBefore b hb

theorem token {t : Token} (spelled : t.Spelled numerals bytes) (ends : t.EndsBefore rest)
    (tail : Spelling numerals ts rest) : Spelling numerals (t :: ts) (bytes ++ rest) :=
  @Spelling.cons numerals [] bytes rest t ts nofun spelled ends tail

theorem mark {b : UInt8} {t : Token} (h : Lexer.start b = (.between, some t))
    (ends : t.EndsBefore rest) (tail : Spelling numerals ts rest) :
    Spelling numerals (t :: ts) (b :: rest) :=
  token (.mark h) ends tail

theorem key (k : String) (tail : Spelling numerals ts rest) :
    Spelling numerals (Key.token (.ok (.ofString k)) :: ts) (Text.bytes (textText k) ++ rest) := by
  obtain ⟨bytes, hbytes, hclosed⟩ := Quoted.bytes_textText k
  rw [hbytes]
  exact token (.text hclosed rfl) trivial tail

end Spelling

theorem breaks_blanks {blanks rest : List UInt8} (blank : ∀ b ∈ blanks, Ascii.isBlank b = true)
    (h : ∀ b ∈ rest.head?, Ascii.breaks b = true) :
    ∀ b ∈ (blanks ++ rest).head?, Ascii.breaks b = true := by
  cases blanks with
  | nil => exact h
  | cons b blanks =>
    intro c hc
    obtain rfl : b = c := by simpa using hc
    simp [Ascii.breaks, blank b (by simp)]

/-- What stands behind an item begins with a comma, a blank or the closing bracket. -/
theorem breaks_laidItems (s : Spacing) (level : Nat) (items : List Value)
    {blanks : List UInt8} (blank : ∀ b ∈ blanks, Ascii.isBlank b = true) (rest : List UInt8) :
    ∀ b ∈ (Value.laidItems s level items ++ (blanks ++ Ascii.closeBracket :: rest)).head?,
      Ascii.breaks b = true := by
  cases items with
  | nil =>
    rw [Value.laidItems, List.nil_append]
    exact breaks_blanks blank (by simp; rfl)
  | cons item items =>
    rw [Value.laidItems]
    simp
    rfl

theorem breaks_laidMembers (s : Spacing) (level : Nat) (members : List (String × Value))
    {blanks : List UInt8} (blank : ∀ b ∈ blanks, Ascii.isBlank b = true) (rest : List UInt8) :
    ∀ b ∈ (Value.laidMembers s level members ++ (blanks ++ Ascii.closeBrace :: rest)).head?,
      Ascii.breaks b = true := by
  cases members with
  | nil =>
    rw [Value.laidMembers, List.nil_append]
    exact breaks_blanks blank (by simp; rfl)
  | cons member members =>
    rw [Value.laidMembers]
    simp
    rfl

theorem Node.tokens_ne_nil (n : Node) : n.tokens ≠ [] := by
  obtain ⟨t, ts, h, -⟩ := n.tokens_head
  simp [h]

section

variable {s : Spacing} (hs : s.Blank)

include hs

mutual

/-- A value spells the tokens of its document, whatever stands behind it. -/
theorem spelling_laid (level : Nat) : (v : Value) → (ts : List Token) → (rest : List UInt8) →
    Spelling Numeral.Written ts rest → (∀ b ∈ rest.head?, Ascii.breaks b = true) →
    Spelling Numeral.Written ((v.toNode .null).tokens ++ ts) (v.laid s level ++ rest)
  | .null, ts, rest, h, _ => by
    rw [Value.toNode, Value.laid, bytes_null]
    exact .token (.word .null) trivial h
  | .flag b, ts, rest, h, _ => by
    rw [Value.toNode, Value.laid]
    cases b
    · rw [if_neg Bool.false_ne_true, bytes_false]
      exact .token (.word .false) trivial h
    · rw [if_pos rfl, bytes_true]
      exact .token (.word .true) trivial h
  | .integer n, ts, rest, h, hbreaks => by
    rw [Value.toNode, Value.laid]
    exact .token (.number (.integer n) (Numeral.ofBytes?_integer n)) hbreaks h
  | .real x, ts, rest, h, hbreaks => by
    rw [Value.toNode, Value.laid]
    split_ifs with hx
    · exact .token (.number (.real hx) (Numeral.ofBytes?_real hx)) hbreaks h
    · rw [realText, if_neg hx, bytes_null]
      exact .token (.word .null) trivial h
  | .text t, ts, rest, h, _ => by
    rw [Value.toNode, Value.laid]
    exact .key t h
  | .list [], ts, rest, h, _ => by
    rw [Value.toNode, Value.itemNodes, Value.laid]
    exact .mark rfl trivial (.mark rfl trivial h)
  | .list (item :: items), ts, rest, h, _ => by
    have tail := spelling_laidItems (level + 1) items (s.line level) ts rest (hs.line level) h
    have breaks := breaks_laidItems s (level + 1) items (hs.line level) rest
    have first := spelling_laid (level + 1) item _ _ tail breaks
    have spaced := first.blanks_append (by simp [Node.tokens_ne_nil]) (hs.line (level + 1))
    rw [Value.toNode, Value.itemNodes, Value.laid, Node.tokens]
    simpa using Spelling.mark (b := Ascii.openBracket) rfl trivial spaced
  | .object [], ts, rest, h, _ => by
    rw [Value.toNode, Value.memberNodes, Value.laid]
    exact .mark rfl trivial (.mark rfl trivial h)
  | .object ((key, value) :: members), ts, rest, h, _ => by
    have tail := spelling_laidMembers (level + 1) members (s.line level) ts rest (hs.line level) h
    have breaks := breaks_laidMembers s (level + 1) members (hs.line level) rest
    have first := spelling_laid (level + 1) value _ _ tail breaks
    have spaced := first.blanks_append (by simp [Node.tokens_ne_nil]) hs.gap
    have keyed := Spelling.key key (.mark (b := Ascii.colon) rfl trivial spaced)
    have lined := keyed.blanks_append (by simp) (hs.line (level + 1))
    rw [Value.toNode, Value.memberNodes, Value.laid, Node.tokens]
    simpa using Spelling.mark (b := Ascii.openBrace) rfl trivial lined

theorem spelling_laidItems (level : Nat) : (items : List Value) → (blanks : List UInt8) →
    (ts : List Token) → (rest : List UInt8) → (∀ b ∈ blanks, Ascii.isBlank b = true) →
    Spelling Numeral.Written ts rest →
    Spelling Numeral.Written (moreItemTokens (Value.itemNodes .null items) ++ ts)
      (Value.laidItems s level items ++ (blanks ++ Ascii.closeBracket :: rest))
  | [], blanks, ts, rest, hblanks, h => by
    have closed : Spelling Numeral.Written (.closeBracket :: ts) (Ascii.closeBracket :: rest) :=
      .mark rfl trivial h
    rw [Value.itemNodes, Value.laidItems, moreItemTokens]
    exact closed.blanks_append (by simp) hblanks
  | item :: items, blanks, ts, rest, hblanks, h => by
    have tail := spelling_laidItems level items blanks ts rest hblanks h
    have breaks := breaks_laidItems s level items hblanks rest
    have first := spelling_laid level item _ _ tail breaks
    have spaced := first.blanks_append (by simp [Node.tokens_ne_nil]) (hs.line level)
    rw [Value.itemNodes, Value.laidItems, moreItemTokens]
    simpa using Spelling.mark (b := Ascii.comma) rfl trivial spaced

theorem spelling_laidMembers (level : Nat) : (members : List (String × Value)) →
    (blanks : List UInt8) → (ts : List Token) → (rest : List UInt8) →
    (∀ b ∈ blanks, Ascii.isBlank b = true) → Spelling Numeral.Written ts rest →
    Spelling Numeral.Written (moreMemberTokens (Value.memberNodes .null members) ++ ts)
      (Value.laidMembers s level members ++ (blanks ++ Ascii.closeBrace :: rest))
  | [], blanks, ts, rest, hblanks, h => by
    have closed : Spelling Numeral.Written (.closeBrace :: ts) (Ascii.closeBrace :: rest) :=
      .mark rfl trivial h
    rw [Value.memberNodes, Value.laidMembers, moreMemberTokens]
    exact closed.blanks_append (by simp) hblanks
  | (key, value) :: members, blanks, ts, rest, hblanks, h => by
    have tail := spelling_laidMembers level members blanks ts rest hblanks h
    have breaks := breaks_laidMembers s level members hblanks rest
    have first := spelling_laid level value _ _ tail breaks
    have spaced := first.blanks_append (by simp [Node.tokens_ne_nil]) hs.gap
    have keyed := Spelling.key key (.mark (b := Ascii.colon) rfl trivial spaced)
    have lined := keyed.blanks_append (by simp) (hs.line level)
    rw [Value.memberNodes, Value.laidMembers, moreMemberTokens]
    simpa using Spelling.mark (b := Ascii.comma) rfl trivial lined

end

end

/-! ## Documents of written values -/

mutual

/-- Nothing in the document of a value stands for a fault. -/
theorem skipFault?_toNode : (v : Value) → (v.toNode .null).skipFault? = none
  | .null => rfl
  | .flag b => by cases b <;> rfl
  | .integer n => by rw [Value.toNode, Node.skipFault?]
  | .real x => by
    rw [Value.toNode]
    split_ifs
    · rw [Node.skipFault?]
    · rfl
  | .text t => by
    rw [Value.toNode, Node.skipFault?]
    rfl
  | .list items => by
    rw [Value.toNode, Node.skipFault?, skipItems?_itemNodes items]
    rfl
  | .object members => by
    rw [Value.toNode, Node.skipFault?, skipMembers?_memberNodes members]
    rfl

theorem skipItems?_itemNodes : (items : List Value) →
    Node.skipItems? (Value.itemNodes .null items) = none
  | [] => by rw [Value.itemNodes, Node.skipItems?]
  | item :: items => by
    rw [Value.itemNodes, Node.skipItems?, skipFault?_toNode item, skipItems?_itemNodes items]
    rfl

theorem skipMembers?_memberNodes : (members : List (String × Value)) →
    Node.skipMembers? (Value.memberNodes .null members) = none
  | [] => by rw [Value.memberNodes, Node.skipMembers?]
  | (key, value) :: members => by
    rw [Value.memberNodes, Node.skipMembers?, skipFault?_toNode value,
      skipMembers?_memberNodes members]
    rfl

end

namespace Document

variable {s : Spacing} (hs : s.Blank) (v : Value)

include hs

theorem spelling_value : Spelling Numeral.Written (v.toNode .null).tokens (v.laid s 0) := by
  simpa using spelling_laid hs 0 v [] [] .nil nofun

/-- The bytes of a value, and blanks behind them, are read as its document. -/
theorem ofBytes_laid {blanks : List UInt8} (blank : ∀ b ∈ blanks, Ascii.isBlank b = true) :
    Document.ofBytes (v.laid s 0 ++ blanks) = ⟨v.toNode .null, false⟩ := by
  rw [ofBytes, (spelling_value hs v).tokens_eq blank, ofTokens_tokens (skipFault?_toNode v)]

/-- A proper beginning of the bytes of a value is read as a cut of its document. -/
theorem ofBytes_cut {p : List UInt8} (hp : p <+: v.laid s 0) (hne : p ≠ v.laid s 0) :
    ∃ m, Node.Cut Numeral.Written (v.toNode .null) m ∧ Document.ofBytes p = ⟨m, false⟩ := by
  rw [ofBytes]
  exact ofTokens_cut (skipFault?_toNode v) ((spelling_value hs v).tokens_cut hp hne)

end Document

end CycleLedger.Json
