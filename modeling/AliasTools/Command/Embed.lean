import AliasTools.Command.Placeholder
import AliasTools.Json.Read

/-!
# Embeds

An embed is a framed message that a command line describes by flags: a title, a description, pictures,
a colour, a time after which it goes away, and fields.
-/

namespace AliasTools.Command

open Text Number

structure EmbedField where
  name : String
  value : String
  inline : Bool := false
deriving DecidableEq

structure Embed where
  title : Option String := none
  description : Option String := none
  footer : Option String := none
  thumbnail : Option String := none
  image : Option String := none
  color : Option String := none
  timeout : Option Int := none
  fields : List EmbedField := []
deriving DecidableEq

def Embed.toJson (e : Embed) : Json :=
  let text (t : Option String) : Json := (t.map Json.str).getD .null
  .obj [("title", text e.title), ("description", text e.description), ("footer", text e.footer),
    ("thumbnail", text e.thumbnail), ("image", text e.image), ("color", text e.color),
    ("timeout", (e.timeout.map Json.int).getD .null),
    ("fields", .arr (e.fields.map fun f =>
      .obj [("name", .str f.name), ("value", .str f.value), ("inline", .bool f.inline)]))]

inductive EmbedFlag where
  | title | desc | thumb | image | footer | field | color | timeout
deriving DecidableEq

def EmbedFlag.ofWord? (w : String) : Option EmbedFlag :=
  [("-title", EmbedFlag.title), ("-desc", .desc), ("-thumb", .thumb), ("-image", .image),
   ("-footer", .footer), ("-f", .field), ("-color", .color), ("-t", .timeout)].lookup (lowerText w)

def EmbedFlag.word : EmbedFlag → String
  | .title => "-title" | .desc => "-desc" | .thumb => "-thumb" | .image => "-image"
  | .footer => "-footer" | .field => "-f" | .color => "-color" | .timeout => "-t"

inductive EmbedFault where
  | empty
  | unclosed (u : Unclosed)
  | unknownFlag (word : String)
  | missingValue (flag : EmbedFlag)
  | fieldForm | fieldEmpty | fieldInline
  | color | timeoutForm | timeoutRange

def EmbedFault.message : EmbedFault → String
  | .empty => "Embed payload is empty."
  | .unclosed u => "Embed payload could not be parsed: " ++ u.message
  | .unknownFlag w => s!"Embed payload contains unknown flag '{w}'."
  | .missingValue f => s!"Embed flag '{f.word}' requires a value."
  | .fieldForm => "Embed field must be in the form \"Title|Text[|inline]\"."
  | .fieldEmpty => "Embed field title and text cannot be empty."
  | .fieldInline => "Embed field inline value must be 'inline' or omitted."
  | .color => "Embed color must be a 6-hex value (e.g. #ff00ff)."
  | .timeoutForm => "Embed timeout (-t) must be an integer."
  | .timeoutRange => "Embed timeout (-t) must be between 0 and 600 seconds."

variable (v : String) (payload : String)

def isColorPlaceholder : Bool := lowerText (trim v) == "<color>"

def colorDigits? : Option String :=
  let six (cs : List Char) : Option String :=
    if cs.length == 6 && cs.all isHexDigit then some (String.ofList cs) else none
  let body := match v.toList.getLast? with
    | some '\n' => v.toList.dropLast
    | _ => v.toList
  match body with
  | '#' :: cs => six cs
  | '0' :: 'x' :: cs => six cs
  | cs => six cs

def fieldParts : List String := (cutAtPiece ['|'] none v.toList).map String.ofList

def EmbedFlag.check (f : EmbedFlag) (value : Option String) : Except EmbedFault Nat :=
  let given := value.filter fun v => !v.startsWith "-"
  match f, given with
  | .color, none => .ok 0
  | f, none => .error (.missingValue f)
  | .color, some v => if isColorPlaceholder v || (colorDigits? v).isSome then .ok 1 else .error .color
  | .timeout, some v =>
    match readInt? 10 v.toList with
    | none => .error .timeoutForm
    | some n => if n < 0 || n > 600 then .error .timeoutRange else .ok 1
  | .field, some v =>
    match fieldParts v with
    | name :: text :: more =>
      if more.length > 1 then .error .fieldForm
      else if name.isEmpty || text.isEmpty then .error .fieldEmpty
      else
        match more with
        | [flag] => if ["inline", ""].contains (lowerText flag) then .ok 1 else .error .fieldInline
        | _ => .ok 1
    | _ => .error .fieldForm
  | _, some _ => .ok 1

/-- Check words one flag after another; `skip` counts words that belong to the last flag. -/
def checkWords (skip : Nat) : List String → Option EmbedFault
  | [] => none
  | w :: ws =>
    match skip with
    | k + 1 => checkWords k ws
    | 0 =>
      if !w.startsWith "-" then checkWords 0 ws
      else
        match EmbedFlag.ofWord? w with
        | none => some (.unknownFlag w)
        | some f =>
          match f.check ws.head? with
          | .error e => some e
          | .ok n => checkWords n ws

def embedFault? : Option EmbedFault :=
  let text := trim payload
  if text.isEmpty then some .empty
  else
    match splitWords text with
    | .error u => some (.unclosed u)
    | .ok ws => checkWords 0 ws

def shownColor (v : Option String) : Option String :=
  match v with
  | none | some "" => none
  | some v =>
    if isColorPlaceholder v then some "<color>"
    else
      match colorDigits? v with
      | some ds => some s!"#{ds}"
      | none => some v

def EmbedField.ofText? : Option EmbedField :=
  match fieldParts v with
  | name :: value :: more =>
    let inline := match more with
      | [flag] => lowerText flag == "inline"
      | _ => false
    some ⟨name, value, inline⟩
  | _ => none

def Embed.set (e : Embed) (f : EmbedFlag) (value : Option String) : Embed :=
  let text := some (value.getD "")
  match f with
  | .title => { e with title := text }
  | .desc => { e with description := text }
  | .footer => { e with footer := text }
  | .thumb => { e with thumbnail := text }
  | .image => { e with image := text }
  | .color => { e with color := shownColor value }
  | .timeout => { e with timeout := value.bind fun v => readInt? 10 v.toList }
  | .field => { e with fields := e.fields ++ (value.bind EmbedField.ofText?).toList }

def Embed.addWords (e : Embed) (skip : Nat) : List String → Embed
  | [] => e
  | w :: ws =>
    match skip with
    | k + 1 => e.addWords k ws
    | 0 =>
      match if w.startsWith "-" then EmbedFlag.ofWord? w else none with
      | none => e.addWords 0 ws
      | some f => (e.set f ws.head?).addWords 1 ws

def Embed.parse : Except Unclosed Embed := (splitWords (trim payload)).map fun ws => Embed.addWords {} 0 ws

def splitDefinition (text : String) : String × Nat :=
  match lines text.toList with
  | first :: rest =>
    let first := first.dropWhile isBlank
    if "!alias".toList.isPrefixOf first then
      let body := String.intercalate "\n" (rest.map String.ofList)
      match words (some 2) [] first (first.length + 1) with
      | _ :: _ :: remainder :: _ => (String.ofList remainder ++ (if body.isEmpty then "" else "\n" ++ body), 0)
      | _ => (body, 1)
    else (text, 0)
  | [] => (text, 0)

structure Preview where
  shown : Option String := none
  name : Option String := none
  fault : Option EmbedFault := none
  embed : Option Embed := none

def splitHead (line : List Char) : String × String :=
  match words (some 1) [] line (line.length + 1) with
  | [] => ("", "")
  | [w] => (String.ofList w, "")
  | w :: rest :: _ => (String.ofList w, String.ofList rest)

def joinPayload (first : String) (rest : List String) : String :=
  if rest.isEmpty then first
  else (if first.isEmpty then "" else first ++ "\n") ++ String.intercalate "\n" rest

def isEmbedFlag (w : String) : Bool := (EmbedFlag.ofWord? w).isSome

def findEmbed? : List String → Option (String × String)
  | [] => none
  | line :: rest =>
    let (head, payload) := splitHead line.toList
    if lowerText head == "embed" || isEmbedFlag head then some (head, joinPayload payload rest)
    else findEmbed? rest

def commandParts? (text : String) : Option (String × String) :=
  let ls := ((lineTexts text).map trim).filter (!·.isEmpty)
  match ls with
  | [] => none
  | line :: rest =>
    let (head, payload) := splitHead line.toList
    if isEmbedFlag head then some (head, String.intercalate "\n" ls)
    else if ["embed", "echo"].contains (lowerText head) then some (head, joinPayload payload rest)
    else some ((findEmbed? rest).getD (head, joinPayload payload rest))

def previewEmbed : Preview :=
  match embedFault? payload with
  | some f => { shown := some payload, name := some "embed", fault := some f }
  | none => { shown := some payload, name := some "embed", embed := (Embed.parse payload).toOption }

def Preview.ofCommand (command : String) : Preview :=
  let text := trim (splitDefinition command).1
  match commandParts? text with
  | none => {}
  | some (head, payload) =>
    if lowerText head == "echo" then { shown := some payload, name := some "echo" }
    else if lowerText head == "embed" then previewEmbed payload
    else if isEmbedFlag head then previewEmbed text
    else { name := some head }

end AliasTools.Command
