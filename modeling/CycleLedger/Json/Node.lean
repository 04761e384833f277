import CycleLedger.Json.Token

/-! # Documents as far as they were read

A document is a tree in which the fault that ended reading stands where reading ended, so the tree
lists everything in the order of the bytes. A list or object that was not closed carries its fault
behind what it holds; behind a comma there is always one more item or member, broken if need be.
-/

namespace CycleLedger.Json

/-- The key of a member, or why none begins where one has to. -/
abbrev Key := Except Fault Quoted

inductive Node where
  | word (w : Word) (fault? : Option Fault)
  | number (n : Except Fault Numeral)
  | text (q : Quoted)
  | list (items : List Node) (fault? : Option Fault)
  /-- members in order -/
  | object (members : List (Key × Node)) (fault? : Option Fault)
  /-- nothing that begins a value -/
  | broken (f : Fault)

namespace Node

def null : Node := .word .null none

def flag (b : Bool) : Node := .word (if b then .true else .false) none

mutual

/--
The first fault of a value that is skipped. Numerals may have any size and texts any units; a
numeral that is broken off counts as malformed.
-/
def skipFault? : Node → Option Fault
  | .word _ fault? => fault?
  | .number (.ok _) => none
  | .number (.error _) => some .malformed
  | .text q => q.fault?
  | .list items fault? => (skipItems? items).or fault?
  | .object members fault? => (skipMembers? members).or fault?
  | .broken f => some f

def skipItems? : List Node → Option Fault
  | [] => none
  | item :: items => item.skipFault?.or (skipItems? items)

def skipMembers? : List (Key × Node) → Option Fault
  | [] => none
  | (key, value) :: members =>
    (match key with
      | .ok q => q.fault?
      | .error f => some f).or (value.skipFault?.or (skipMembers? members))

end

end Node

/-- A list or object around the value being read; items and members are the latest first. -/
inductive Frame where
  | item (before : List Node)
  | member (before : List (Key × Node)) (key : Key)

namespace Frame

/-- The broken-off list or object around a broken-off value. -/
def cut (f : Fault) (n : Node) : Frame → Node
  | item before => .list (n :: before).reverse (some f)
  | member before key => .object ((key, n) :: before).reverse (some f)

end Frame

/-- What may come next, and what has been read around it, the innermost frame first. -/
inductive Reading where
  | value (around : List Frame)
  /-- behind an opening bracket -/
  | firstItem (around : List Frame)
  | nextItem (items : List Node) (around : List Frame)
  /-- behind an opening brace -/
  | firstMember (around : List Frame)
  | nextMember (members : List (Key × Node)) (around : List Frame)
  /-- behind a comma between members -/
  | nextKey (members : List (Key × Node)) (around : List Frame)
  | colon (members : List (Key × Node)) (key : Key) (around : List Frame)
  | done (root : Node) (trailing : Bool)

/-- A whole document; `trailing` if something other than blanks follows its value. -/
structure Document where
  root : Node
  trailing : Bool

namespace Reading

/-- The value is complete. -/
def place (n : Node) : List Frame → Reading
  | [] => .done n false
  | .item before :: around => .nextItem (n :: before) around
  | .member before key :: around => .nextMember ((key, n) :: before) around

/-- The document when reading ends with a broken-off value. -/
def broken (f : Fault) (n : Node) (around : List Frame) : Node :=
  around.foldl (fun n frame => frame.cut f n) n

/-- The object that breaks off behind its members. -/
def brokenObject (f : Fault) (members : List (Key × Node)) (around : List Frame) : Node :=
  broken f (.object members.reverse (some f)) around

def stop (f : Fault) (n : Node) (around : List Frame) : Reading := .done (broken f n around) false

/-- A value begins with the token, or is the token. -/
def begin (t : Token) (around : List Frame) : Reading :=
  match t with
  | .word w none => place (.word w none) around
  | .word w (some f) => stop f (.word w (some f)) around
  | .number (.ok n) => place (.number (.ok n)) around
  | .number (.error f) => stop f (.number (.error f)) around
  | .text q => match q.fault? with
    | none => place (.text q) around
    | some f => stop f (.text q) around
  | .openBracket => .firstItem around
  | .openBrace => .firstMember around
  | .closeBrace | .closeBracket | .colon | .comma | .stray =>
    stop .malformed (.broken .malformed) around

/-- An object breaks off in a key or behind it. -/
def refuseKey (f : Fault) (members : List (Key × Node)) (key : Key) (around : List Frame) :
    Reading :=
  .done (brokenObject f ((key, .broken f) :: members) around) false

/-- A key is complete, or breaks the object off; only a text is a key. -/
def placeKey (members : List (Key × Node)) (t : Token) (around : List Frame) : Reading :=
  match t with
  | .text q => match q.fault? with
    | none => .colon members (.ok q) around
    | some f => refuseKey f members (.ok q) around
  | _ => refuseKey .malformed members (.error .malformed) around

def step (r : Reading) (t : Token) : Reading :=
  match r with
  | value around => begin t around
  | firstItem around => match t with
    | .closeBracket => place (.list [] none) around
    | t => begin t (.item [] :: around)
  | nextItem items around => match t with
    | .comma => .value (.item items :: around)
    | .closeBracket => place (.list items.reverse none) around
    | _ => stop .malformed (.list items.reverse (some .malformed)) around
  | firstMember around => match t with
    | .closeBrace => place (.object [] none) around
    | t => placeKey [] t around
  | nextMember members around => match t with
    | .comma => .nextKey members around
    | .closeBrace => place (.object members.reverse none) around
    | _ => stop .malformed (.object members.reverse (some .malformed)) around
  | nextKey members around => placeKey members t around
  | colon members key around => match t with
    | .colon => .value (.member members key :: around)
    | _ => refuseKey .malformed members key around
  | done root _ => .done root true

/-- The document that has been read when the tokens end. -/
def finish : Reading → Document
  | value around => ⟨broken .truncated (.broken .truncated) around, false⟩
  | firstItem around => ⟨broken .truncated (.list [] (some .truncated)) around, false⟩
  | nextItem items around =>
    ⟨broken .truncated (.list items.reverse (some .truncated)) around, false⟩
  | firstMember around => ⟨brokenObject .truncated [] around, false⟩
  | nextMember members around => ⟨brokenObject .truncated members around, false⟩
  | nextKey members around =>
    ⟨brokenObject .truncated ((.error .truncated, .broken .truncated) :: members) around, false⟩
  | colon members key around =>
    ⟨brokenObject .truncated ((key, .broken .truncated) :: members) around, false⟩
  | done root trailing => ⟨root, trailing⟩

end Reading

def Document.ofTokens (ts : List Token) : Document :=
  (ts.foldl Reading.step (.value [])).finish

def Document.ofBytes (bytes : List UInt8) : Document := .ofTokens (tokens bytes)

end CycleLedger.Json
