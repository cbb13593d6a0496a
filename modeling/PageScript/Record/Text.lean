import PageScript.Record.Decoder
import PageScript.Json.Reader

/-!
# Reading records from JSON text

A record in a text is read while the text is: of a fault of the text and a value that does not fit, the one that
stands earlier is reported. A failure in a part that was put aside is noticed only when the text has been read
over it, and has no place.
-/

namespace PageScript.Record

/-- Why a text is no record. -/
structure TextFailure where
  /-- The wording of the cause. -/
  cause : String
  /-- Where it was noticed. -/
  place : Option Position
deriving DecidableEq, Repr

/-- The wording with the place. -/
def TextFailure.message (f : TextFailure) : String :=
  match f.place with
  | none => f.cause
  | some p => s!"{f.cause} at line {p.line} column {p.column}"

/-- A fault of the text itself. -/
def TextFailure.ofBroken (b : Json.Broken) : TextFailure :=
  ⟨b.1.message, some b.2⟩

/-- The place of a spot in a document. A spot behind a part that is broken is never reached. -/
def placeOf? (doc : Json.Document) (spot : Spot) : Option Position :=
  (doc.part? spot.path).bind fun part =>
    match spot.edge with
    | .lead => some part.lead
    | .before => part.span?.map Json.Span.before
    | .after => if part.fault?.isSome then none else part.span?.map Json.Span.after

/-- Reads a text as a type. -/
def Decoder.ofText (d : Decoder α) (s : String) : Except TextFailure α :=
  let (doc, trailing) := Json.Document.ofText s
  match d.run doc.raw with
  | .error ⟨cause, some spot⟩ =>
    match placeOf? doc spot, doc.fault? with
    | some place, _ => .error ⟨cause.message, some place⟩
    | none, some b => .error (.ofBroken b)
    | none, none => .error ⟨cause.message, none⟩
  | .error ⟨cause, none⟩ =>
    match doc.fault? with
    | some b => .error (.ofBroken b)
    | none => .error ⟨cause.message, none⟩
  | .ok a =>
    match doc.fault? <|> trailing with
    | some b => .error (.ofBroken b)
    | none => .ok a

end PageScript.Record
