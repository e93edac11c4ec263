/-
Reading a JSON document from its tokens with an explicit stack of open
containers. Each token moves the reader one step, so the reader is a
fold; a document is what is there when the stack is empty again. Only so
many containers that hold something may be open at once; a text that goes
deeper is told from one that is no JSON.
-/
import Storyline.Json.Checked
import Storyline.Json.Lexer
import Storyline.Json.Scalar

namespace Storyline.Json

-- ========================================================= the state

/-- A container whose next value is being read; what it holds already is last
first. -/
inductive Frame where
  | array (done : List Json)
  | object (done : List (String × Json)) (name : String)

/-- What may come next inside the open containers. -/
inductive Awaiting where
  /-- A value. -/
  | value
  /-- A value, or the end of the array that was just opened. -/
  | firstItem
  /-- A comma or the end of an array with these items. -/
  | nextItem (done : List Json)
  /-- A name, or the end of the object that was just opened. -/
  | firstName
  /-- A name after a comma in an object with these members. -/
  | name (done : List (String × Json))
  /-- The colon after a name. -/
  | colon (done : List (String × Json)) (name : String)
  /-- A comma or the end of an object with these members. -/
  | nextMember (done : List (String × Json))
  /-- Nothing more: this is the document. -/
  | nothing (document : Json)

/-- The reader between two tokens. -/
structure Reader where
  awaiting : Awaiting
  stack : List Frame

/-- Why a text is not read. -/
inductive Fault where
  | malformed
  | tooDeep
deriving DecidableEq, Repr

/-- The value, or else the text is no JSON. -/
def orMalformed : Option α → Except Fault α
  | some a => .ok a
  | none => .error .malformed

-- ========================================================== the steps

/-- Hands a finished value to the innermost open container. -/
def Reader.deliver (value : Json) : List Frame → Reader
  | [] => ⟨.nothing value, []⟩
  | .array done :: outer => ⟨.nextItem (value :: done), outer⟩
  | .object done name :: outer => ⟨.nextMember ((name, value) :: done), outer⟩

/-- Reads the first token of a value. -/
def Reader.begin (tolerance : Tolerance) (stack : List Frame) :
    Token → Except Fault Reader
  | .word cs => (orMalformed (word? tolerance cs)).map (deliver · stack)
  | .quoted raw =>
    (orMalformed (unescape tolerance raw)).map fun s =>
      deliver (.string s) stack
  | .sign .openArray => .ok ⟨.firstItem, stack⟩
  | .sign .openObject => .ok ⟨.firstName, stack⟩
  | .sign _ | .unclosed _ => .error .malformed

/-- Opens a container for its next value, if one more may be open. -/
def Reader.push (tolerance : Tolerance) (frame : Frame) (stack : List Frame) :
    Except Fault (List Frame) :=
  if stack.length < tolerance.depth then .ok (frame :: stack)
  else .error .tooDeep

/-- Reads the name of a member. -/
def Reader.readName (tolerance : Tolerance) (done : List (String × Json))
    (stack : List Frame) :
    Token → Except Fault Reader
  | .quoted raw =>
    (orMalformed (unescape tolerance raw)).map fun name =>
      ⟨.colon done name, stack⟩
  | _ => .error .malformed

/-- Moves on by one token. -/
def Reader.step (tolerance : Tolerance) (reader : Reader) (token : Token) :
    Except Fault Reader :=
  let stack := reader.stack
  match reader.awaiting with
  | .value => begin tolerance stack token
  | .firstItem =>
    if token = .sign .closeArray then .ok (deliver (.array []) stack)
    else (push tolerance (.array []) stack).bind (begin tolerance · token)
  | .nextItem done =>
    match token with
    | .sign .comma => (push tolerance (.array done) stack).map (⟨.value, ·⟩)
    | .sign .closeArray => .ok (deliver (.array done.reverse) stack)
    | _ => .error .malformed
  | .firstName =>
    if token = .sign .closeObject then .ok (deliver (.object []) stack)
    else readName tolerance [] stack token
  | .name done => readName tolerance done stack token
  | .colon done name =>
    if token = .sign .colon then
      (push tolerance (.object done name) stack).map (⟨.value, ·⟩)
    else .error .malformed
  | .nextMember done =>
    match token with
    | .sign .comma => .ok ⟨.name done, stack⟩
    | .sign .closeObject => .ok (deliver (.object done.reverse) stack)
    | _ => .error .malformed
  | .nothing _ => .error .malformed

/-- The document that the reader has finished. -/
def Reader.document? (reader : Reader) : Option Json :=
  match reader.awaiting with
  | .nothing document => some document
  | _ => none

/-- Reads a sequence of tokens. -/
def ofTokens (tolerance : Tolerance) (ts : List Token) :
    Except Fault Json := do
  let reader ← ts.foldlM (Reader.step tolerance) ⟨.value, []⟩
  orMalformed reader.document?

/-- Reads a text. -/
def ofString (tolerance : Tolerance) (text : String) : Except Fault Json :=
  ofTokens tolerance (tokens text.toList)

/-- Reads a value of a model out of a text. -/
def document (read : Json → Checked α) (text : String) : Checked α :=
  match ofString .strict text with
  | .error _ => .flaw .jsonInvalid
  | .ok json => read json

end Storyline.Json
