import TensorQueue.Text.Number

/-!
# Help

The page that a command shows on request: what it is for, how it is called, and
lists of the words that it takes. The texts of a list stand beside their words
if every line has room for that, and below them otherwise.
-/

set_option autoImplicit false

namespace TensorQueue.Command

/-- A word of the command line, and what it is for. -/
structure HelpEntry where
  word : String
  text : String
  deriving DecidableEq, Repr, Inhabited

namespace Help

def lineWidth : Nat := 100

def wordWidth (entries : List HelpEntry) : Nat :=
  entries.foldr (fun e width => max e.word.length width) 0

def beside (width : Nat) (e : HelpEntry) : String :=
  "  " ++ Text.leftAligned width e.word ++ "  " ++ e.text

/-- Whether some line is too long with its text beside the word. -/
def isCrowded (entries : List HelpEntry) : Bool :=
  entries.any fun e => lineWidth < (beside (wordWidth entries) e).length

def below (e : HelpEntry) : List String := ["  " ++ e.word, "          " ++ e.text]

/-- A list of words under a title, set off by a blank line. -/
def listing (title : String) (entries : List HelpEntry) : List String :=
  "" :: (title ++ ":") ::
    if isCrowded entries then entries.flatMap below
    else entries.map (beside (wordWidth entries))

def page (purpose usage : String) (listings : List (List String)) : List String :=
  purpose :: "" :: ("Usage: " ++ usage) :: listings.flatten

def helpFlag : HelpEntry := ⟨"-h, --help", "Print help"⟩
def versionFlag : HelpEntry := ⟨"-V, --version", "Print version"⟩

end Help

end TensorQueue.Command
