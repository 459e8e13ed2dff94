import SigValidation.Text.Format
/-!
# Debug text

Values are shown as trees of named parts. The compact form stands on one line; the alternate form
puts every part on a line of its own, indented by four more blanks than the whole and followed by a
comma. The format's width, fill, sign and base are handed on to the numbers and truth values inside;
names and quoted text are written as they are.
-/
namespace SigValidation.Text

/-- What a debug text shows. -/
inductive DebugTree where
  /-- A name or a quoted text. -/
  | text (content : String)
  | number (n : Int)
  | truth (b : Bool)
  /-- All numbers from the first to the last. -/
  | range (first last : Int)
  | tuple (name : String) (parts : List DebugTree)
  | record (name : String) (fields : List (String × DebugTree))
  /-- A record that has fields not shown. -/
  | partialRecord (name : String) (fields : List (String × DebugTree))
  | list (items : List DebugTree)
  | set (items : List DebugTree)

namespace DebugTree

def indent (depth : Nat) : String := String.ofList (List.replicate (4 * depth) ' ')

/-- Parts between an opening and a closing text, on one line or on a line each. -/
def enclose (f : Format) (depth : Nat) (opening blank closing : String) (parts : List String) :
    String :=
  if parts.isEmpty then opening ++ closing
  else if f.alternate then
    opening ++ "\n" ++ String.join (parts.map fun part => indent (depth + 1) ++ part ++ "\n") ++
      indent depth ++ closing
  else opening ++ blank ++ String.intercalate ", " parts ++ blank ++ closing

/-- The comma that the alternate form puts after every part. -/
def comma (f : Format) : String := if f.alternate then "," else ""

mutual

/-- The text of a tree that stands at the given depth. -/
def renderAt (f : Format) (depth : Nat) : DebugTree → String
  | text content => content
  | number n => f.debugNumber n
  | truth b => f.padText (if b then "true" else "false")
  | range first last => f.debugNumber first ++ "..=" ++ f.debugNumber last
  | tuple name parts => enclose f depth (name ++ "(") "" ")" (renderParts f (depth + 1) parts)
  | record name fields =>
    if fields.isEmpty then name
    else enclose f depth (name ++ " \x7b") " " "\x7d" (renderFields f (depth + 1) fields)
  | partialRecord name fields =>
    if fields.isEmpty then name ++ " \x7b .. \x7d"
    else enclose f depth (name ++ " \x7b") " " "\x7d" (renderFields f (depth + 1) fields ++ [".."])
  | list items => enclose f depth "[" "" "]" (renderParts f (depth + 1) items)
  | set items => enclose f depth "\x7b" "" "\x7d" (renderParts f (depth + 1) items)

def renderParts (f : Format) (depth : Nat) : List DebugTree → List String
  | [] => []
  | part :: rest => (renderAt f depth part ++ comma f) :: renderParts f depth rest

def renderFields (f : Format) (depth : Nat) : List (String × DebugTree) → List String
  | [] => []
  | (name, value) :: rest =>
    (name ++ ": " ++ renderAt f depth value ++ comma f) :: renderFields f depth rest

end

def render (f : Format) (tree : DebugTree) : String := renderAt f 0 tree

/-- The text of a tree without padding, compact or on many lines. -/
def plain (tree : DebugTree) (pretty : Bool) : String :=
  tree.render { alternate := pretty, debug := true }

end DebugTree

end SigValidation.Text
