import LibraryScout.Json.Shape
import LibraryScout.Source.Kind

/-!
Contract: documents, texts with a file name.
-/

namespace LibraryScout.Assembly

open LibraryScout.Json LibraryScout.Source

/-- A text handed in for extraction, under its file name. -/
structure Document where
  fileName : String
  text : String
deriving DecidableEq, Repr

namespace Document

def kind (document : Document) : Kind :=
  classify document.fileName

def toJson (document : Document) : Json :=
  .object [("file_name", .string document.fileName), ("text", .string document.text)]

def decoder : Decoder Document :=
  Shape.decoder
    { title := "struct Document"
      fields :=
        [⟨"file_name", true, fun depth input =>
          (Decoder.text depth input).map fun (value, rest) =>
            (fun document => { document with fileName := value }, rest)⟩,
         ⟨"text", true, fun depth input =>
          (Decoder.text depth input).map fun (value, rest) =>
            (fun document => { document with text := value }, rest)⟩]
      other := none
      listed := true }
    ⟨"", ""⟩

end Document

end LibraryScout.Assembly
