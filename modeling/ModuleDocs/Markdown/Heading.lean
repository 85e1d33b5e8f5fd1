import ModuleDocs.Markdown.Inline

namespace ModuleDocs.Markdown

/-- What the definitions that links name may add up to in length. -/
def allowance (s : Text) : Nat := max (Text.byteLength s) 100000

def readHeadings (definitions : List Definition) : Nat → List Leaf → List (Nat × Text)
  | _, [] => []
  | allowance, l :: ls =>
    let (text, left) := l.read definitions allowance
    let rest := readHeadings definitions left ls
    match l.level? with
    | some level => (level, Text.trim text) :: rest
    | none => rest

def headingTexts (s : Text) : List (Nat × Text) :=
  let o := outline s
  (readHeadings o.definitions (allowance s) o.leaves.reverse).filter fun h => !h.2.isEmpty

/-- The first heading of the top level, else the first of any level. -/
def firstHeading (s : Text) : Option Text :=
  let hs := headingTexts s
  ((hs.find? fun h => h.1 == 1).orElse fun _ => hs.head?).map (·.2)

def splitExtension (name : Text) : Option (Text × Text) := Text.splitLast (· == '.') name

def isMarkdownName (name : Text) : Bool :=
  match splitExtension name with
  | some (_, extension) =>
    let e := Text.lowercase extension
    e == "md".toList || e == "markdown".toList || e == "mdx".toList
  | none => false

def nameStem (name : Text) : Text :=
  match splitExtension name with
  | some (stem, _) => if stem.isEmpty then name else stem
  | none => name

/-- The first heading if the name is one of a Markdown file, else the stem of the name. -/
def documentTitle (name content : Text) : Text :=
  (if isMarkdownName name then firstHeading content else none).getD (nameStem name)

end ModuleDocs.Markdown
