import AwaitLint.Settings
import AwaitLint.Text.Case
import AwaitLint.Text.Utf8

/-! # Which requests are let in -/

namespace AwaitLint

/-- Why a request is turned away. -/
inductive Refusal
  | codeTooLarge (filename : Option String) (size : Nat) (most : Int)
  | unsupportedLanguage (language : String)
  | noFiles
  | tooManyFiles (count most : Int)
  deriving DecidableEq, Repr

namespace Refusal

def status : Refusal → Nat
  | codeTooLarge .. => 413
  | unsupportedLanguage _ | noFiles | tooManyFiles .. => 400

def message : Refusal → String
  | codeTooLarge filename size most =>
      let place := match filename with
        | some name => if name = "" then "" else " (" ++ name ++ ")"
        | none => ""
      "code too large" ++ place ++ ": " ++ toString size ++ " bytes, max " ++ toString most
  | unsupportedLanguage language => "unsupported language: " ++ language ++ ". try: python"
  | noFiles => "batch has no files"
  | tooManyFiles count most => "too many files: " ++ toString count ++ ", max " ++ toString most

end Refusal

namespace Admission

/-- The size of a text counts in UTF-8. -/
def checkSize (s : Settings) (code : String) (filename : Option String) : Except Refusal Unit :=
  let size := Text.byteCount code.toList
  if s.maxCodeBytes < size then .error (.codeTooLarge filename size s.maxCodeBytes) else .ok ()

/-- One language is known; its case does not matter. -/
def checkLanguage (language : String) : Except Refusal Unit :=
  if Text.lower language = "python" then .ok () else .error (.unsupportedLanguage language)

def checkCount (s : Settings) (count : Int) : Except Refusal Unit :=
  if count = 0 then .error .noFiles
  else if s.maxBatchFiles < count then .error (.tooManyFiles count s.maxBatchFiles)
  else .ok ()

/-- Size first, then language. -/
def checkText (s : Settings) (language code : String) (filename : Option String) :
    Except Refusal Unit := do
  checkSize s code filename
  checkLanguage language

/-- The language and the number of files first, then every file in order. -/
def checkBatch (s : Settings) (language : String) (files : List (Option String × String)) :
    Except Refusal Unit := do
  checkLanguage language
  checkCount s files.length
  files.forM fun (filename, code) => checkText s language code filename

end Admission

end AwaitLint
