import Reckoner.Cli.Command
import Reckoner.Text.Wrap

/-!
# Help pages

* `HelpItem`, `HelpSection`: a term with its description, and some of them under a
  title.
* `Topic.page`: the help for a topic.

A page is eighty characters wide, and the descriptions of a page are in one column.
-/

namespace Reckoner.Cli

/-! ## Items and sections -/

structure HelpItem where
  term : String
  description : String
deriving DecidableEq, Repr

structure HelpSection where
  title : String
  items : List HelpItem
deriving DecidableEq, Repr

def pageWidth : Nat :=
  80

/-- The blanks before a term. -/
def margin : List Char :=
  List.replicate 2 ' '

/-- The blanks between the longest term and its description. -/
def gap : Nat :=
  2

/-- The width of the terms with the gap after them. -/
def termColumn (sections : List HelpSection) : Nat :=
  let widths := sections.flatMap fun s => s.items.map (·.term.length)
  widths.foldl max 0 + gap

/-- The lines of an item, where the terms take so many characters. -/
def HelpItem.lines (column : Nat) (item : HelpItem) : List String :=
  let room := pageWidth - margin.length - column - 1
  let start := item.term.toList ++ List.replicate (column - item.term.length) ' '
  let indent := List.replicate column ' '
  match Text.wrapped room item.description.toList with
  | [] => [String.ofList (margin ++ start)]
  | first :: rest =>
      String.ofList (margin ++ start ++ first) ::
        rest.map fun line => String.ofList (margin ++ indent ++ line)

/-- A section and the empty line after it; a section without items is left out. -/
def HelpSection.lines (column : Nat) (s : HelpSection) : List String :=
  if s.items.isEmpty then []
  else s!"{s.title}:" :: s.items.flatMap (HelpItem.lines column) ++ [""]

/-! ## Pages -/

namespace Topic

/-- How the topic is used. -/
def usage : Topic → String
  | program => s!"{programName} [options] [command]"
  | command c =>
      let words :=
        match c.wordsDescription? with
        | some (name, _) => s!" <{name}...>"
        | none => ""
      s!"{programName} {c.name} [options]{words}"

def description : Topic → String
  | program => programDescription
  | command c => c.description

/-- The switches of a topic, with the one for help. -/
def switches : Topic → List Switch
  | program => programSwitches ++ [.help]
  | command c => c.switches ++ [.help]

/-- The words that the topic is followed by. -/
def wordItems : Topic → List HelpItem
  | program => []
  | command c =>
      c.wordsDescription?.toList.map fun (name, description) =>
        { term := name, description }

/-- The commands of the topic. -/
def commandItems : Topic → List HelpItem
  | program =>
      Subcommand.all.map (fun c => { term := c.term, description := c.description }) ++
        [{ term := s!"{helpCommand} [command]"
           description := "display help for command" }]
  | command _ => []

def sections (defaults : Config) (t : Topic) : List HelpSection :=
  [{ title := "Arguments", items := t.wordItems },
   { title := "Options"
     items :=
       t.switches.map fun s => { term := s.term, description := s.description defaults } },
   { title := "Commands", items := t.commandItems }]

/-- The help for a topic. -/
def page (defaults : Config) (t : Topic) : String :=
  let sections := t.sections defaults
  let column := termColumn sections
  "\n".intercalate
    ([s!"Usage: {t.usage}", "", t.description, ""] ++
      sections.flatMap (HelpSection.lines column))

end Topic

end Reckoner.Cli
