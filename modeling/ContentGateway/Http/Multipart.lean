import ContentGateway.Content
import ContentGateway.Http.MediaType
import ContentGateway.Text.Blank

/-!
# Forms of several parts

A body that holds parts between boundaries.  Each part has headers, an empty line and
content, which goes on up to the next boundary at the start of a line.  The parts are
delivered in order up to the first place where the form is broken.
-/

namespace ContentGateway
namespace Http

structure Part where
  name : Option String
  contentType : Option MediaType
  content : Bytes

/-- The parts that could be read, and whether the form is complete. -/
structure Multipart where
  parts : List Part
  complete : Bool

namespace Multipart

/-- What stands before and after the first occurrence of a sequence of bytes. -/
def cutAt (mark : Bytes) : Bytes -> Option (Bytes × Bytes)
  | [] => if mark.isEmpty then some ([], []) else none
  | b :: rest =>
      if mark.isPrefixOf (b :: rest) then some ([], (b :: rest).drop mark.length)
      else (cutAt mark rest).map fun p => (b :: p.1, p.2)

def lineEnd : Bytes := [13, 10]
def dashes : Bytes := [45, 45]

/-!
# Headers of parts
-/

/-- A text that consists of ASCII characters; other bytes stand for themselves. -/
def latin (bytes : Bytes) : List Char :=
  bytes.map fun b => Char.ofNat b.toNat

/-- The name and the value of a header line. -/
def header? (line : List Char) : Option (String × List Char) :=
  match splitFirst ':' line with
  | none => none
  | some (name, value) =>
      let value := trimBy (fun c => c == ' ' || c == '\t') value
      if isName (String.ofList name) && isHeaderText (String.ofList value) then
        some (asciiLowerCase (String.ofList name), value)
      else none

/-- The lines of a block of headers; a line may end without a carriage return. -/
def lines (block : Bytes) : List (List Char) :=
  let lines := (splitBy (· == '\n') (latin block)).map fun line =>
    if line.getLast? == some '\r' then line.dropLast else line
  lines.takeWhile fun line => !line.isEmpty

/-- So many headers a part may have. -/
def maxHeaders : Nat := 32

def headers? (block : Bytes) : Option (List (String × List Char)) := do
  let headers ← (lines block).mapM header?
  if headers.length ≤ maxHeaders then some headers else none

/-- A name between quotes; a quote behind a backslash belongs to it. -/
def quotedName? (done : List Char) : List Char -> Option (List Char)
  | [] => none
  | '\\' :: '"' :: rest => quotedName? ('"' :: done) rest
  | '"' :: _ => some done.reverse
  | c :: rest => quotedName? (c :: done) rest

/-- The value behind an equals sign. -/
def attributeValue? (text : List Char) : Option (List Char) :=
  match text.dropWhile isAsciiBlank with
  | '=' :: rest =>
      match rest.dropWhile isAsciiBlank with
      | '"' :: quoted => quotedName? [] quoted
      | plain => some (plain.takeWhile fun c => c != ';' && c != ' ')
  | _ => none

/-- The end of a word that is longer than the name of an attribute does not count. -/
def isSeparator (c : Char) : Bool :=
  isAsciiBlank c || c == ';'

/--
The value of the attribute `name`, which follows a blank or a semicolon; `before` is the character
before the text, if there is one.
-/
def attribute? (before : Option Char) : List Char -> Option (List Char)
  | [] => none
  | c :: rest =>
      if !"name".toList.isPrefixOf (c :: rest) then attribute? (some c) rest
      else if before.all isSeparator then attributeValue? (rest.drop 3)
      else attribute? none (rest.drop 3)
termination_by text => text.length

/-- A text of bytes, if they form characters. -/
def textOf? (value : List Char) : Option String :=
  Utf8.toString? (value.map fun c => UInt8.ofNat c.toNat)

def partOf (headers : List (String × List Char)) (content : Bytes) : Part :=
  let value (name : String) : Option (List Char) := headers.reverse.lookup name
  { name := ((value "content-disposition").bind (attribute? none)).bind textOf?
    contentType := (value "content-type").bind fun v =>
      if v.all fun c => c.toNat < 0x7F then MediaType.parse? (String.ofList v) else none
    content }

/-!
# The parts
-/

/-- Reads on behind a boundary; at most `count` parts are left. -/
def readParts (boundary : Bytes) : Nat -> Bytes -> Multipart
  | 0, _ => ⟨[], false⟩
  | count + 1, body =>
      if dashes.isPrefixOf body then ⟨[], true⟩
      else
        let padded := body.dropWhile fun b => b == 32 || b == 9
        if !lineEnd.isPrefixOf padded then ⟨[], false⟩
        else
          match cutAt (lineEnd ++ lineEnd) (padded.drop 2) with
          | none => ⟨[], false⟩
          | some (block, rest) =>
              match headers? block, cutAt (lineEnd ++ dashes ++ boundary) rest with
              | some headers, some (content, rest) =>
                  let others := readParts boundary count rest
                  ⟨partOf headers content :: others.parts, others.complete⟩
              | _, _ => ⟨[], false⟩

/-- The parts of a body; what stands before the first boundary does not count. -/
def read (boundary : String) (body : Bytes) : Multipart :=
  let boundary := Utf8.ofString boundary
  match cutAt (dashes ++ boundary) body with
  | none => ⟨[], false⟩
  | some (_, rest) => readParts boundary (body.length + 1) rest

end Multipart
end Http
end ContentGateway
