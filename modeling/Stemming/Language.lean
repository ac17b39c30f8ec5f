import Stemming.Text.Blank
import Stemming.Text.Quoted

set_option autoImplicit false

namespace Stemming

/-- A language with rules of its own. -/
inductive Language where
  /-- Both written forms of Norwegian, which share their rules. -/
  | norwegian
  deriving DecidableEq, Repr

structure UnknownLanguage where
  code : String
  deriving DecidableEq, Repr

def UnknownLanguage.message (unknown : UnknownLanguage) : String :=
  "unknown language code: " ++ Text.quoted unknown.code

namespace Language

def all : List Language :=
  [.norwegian]

def code : Language → String
  | .norwegian => "no"

/-- The English name of a language, which is also a code of it. -/
def name : Language → String
  | .norwegian => "norwegian"

def title : Language → String
  | .norwegian => "Norwegian"

/-- The codes of a language: those of its written forms in two letters and in three, and its
name. -/
def codes : Language → List String
  | .norwegian => ["no", "nb", "nn", "nor", "nob", "nno", "norwegian"]

/-- The language of a code. White space around the code and the case of ASCII letters do not
matter. -/
def ofCode? (code : String) : Option Language :=
  let key := String.ofList ((Text.trim code.toList).map Char.toLower)
  all.find? fun language => language.codes.contains key

def ofCode (code : String) : Except UnknownLanguage Language :=
  match ofCode? code with
  | some language => .ok language
  | none => .error ⟨code⟩

end Language

end Stemming
