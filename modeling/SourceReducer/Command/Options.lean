/-! Options of small programs: letters behind a dash, several of which may stand together, and names
behind two dashes, which may be cut short. Options may stand anywhere; what is no option is an
operand. -/
namespace SourceReducer

/-- Whether an option takes a value. -/
inductive ValueNeed
  | none
  | optional
  | required
  deriving DecidableEq

structure OptionTable where
  /-- The letters and what they need. -/
  letters : List (Char × ValueNeed)
  /-- The names, what they need, and the letters that they stand for. -/
  names : List (String × ValueNeed × Char)

inductive OptionFault
  | unknownLetter (c : Char)
  | missingValue (c : Char)
  | unknownName (text : String)
  | ambiguous (text : String) (names : List String)
  | missingNamedValue (name : String)
  | needlessValue (name : String)

def OptionFault.message : OptionFault → String
  | .unknownLetter c => s!"invalid option -- '{c}'"
  | .missingValue c => s!"option requires an argument -- '{c}'"
  | .unknownName text => s!"unrecognized option '{text}'"
  | .ambiguous text names =>
      let shown := " ".intercalate (names.map fun name => "'--" ++ name ++ "'")
      s!"option '{text}' is ambiguous; possibilities: {shown}"
  | .missingNamedValue name => s!"option '--{name}' requires an argument"
  | .needlessValue name => s!"option '--{name}' doesn't allow an argument"

/-- The options that were given with their values, and the operands. -/
structure GivenOptions where
  options : List (Char × Option String) := []
  operands : List String := []

namespace GivenOptions

def add (g : GivenOptions) (letter : Char) (value : Option String) : GivenOptions :=
  { g with options := g.options ++ [(letter, value)] }

def has (g : GivenOptions) (letter : Char) : Bool :=
  g.options.any fun o => o.1 == letter

/-- Reads letters that stand together. The last one may need the next argument as its value, which
is then left to be taken. -/
def readLetters (table : OptionTable) : List Char → GivenOptions →
    Except OptionFault (GivenOptions × Option Char)
  | [], g => .ok (g, none)
  | c :: rest, g =>
      match table.letters.lookup c with
      | none => .error (.unknownLetter c)
      | some .none => readLetters table rest (g.add c none)
      | some .optional =>
          .ok (g.add c (if rest.isEmpty then none else some (String.ofList rest)), none)
      | some .required =>
          if rest.isEmpty then .ok (g, some c) else .ok (g.add c (some (String.ofList rest)), none)

/-- Reads a name that may be cut short. -/
def findName (table : OptionTable) (text name : String) :
    Except OptionFault (String × ValueNeed × Char) :=
  match table.names.find? fun n => n.1 == name with
  | some found => .ok found
  | none =>
      match table.names.filter fun n => name.toList.isPrefixOf n.1.toList with
      | [] => .error (.unknownName text)
      | found :: others =>
          if others.all fun o => o.2.2 == found.2.2 then .ok found
          else .error (.ambiguous text ((found :: others).map fun n => n.1))

/-- Reads arguments. -/
def read (table : OptionTable) : List String → GivenOptions → Except OptionFault GivenOptions
  | [], g => .ok g
  | arg :: rest, g =>
      match arg.toList with
      | ['-', '-'] => .ok { g with operands := g.operands ++ rest }
      | '-' :: '-' :: text =>
          let (name, value) := text.span (· != '=')
          match findName table arg (String.ofList name) with
          | .error fault => .error fault
          | .ok (full, need, letter) =>
              match need, value with
              | .none, _ :: _ => .error (.needlessValue full)
              | .required, [] =>
                  match rest with
                  | next :: rest => read table rest (g.add letter (some next))
                  | [] => .error (.missingNamedValue full)
              | _, '=' :: value => read table rest (g.add letter (some (String.ofList value)))
              | _, _ => read table rest (g.add letter none)
      | '-' :: letter :: letters =>
          match readLetters table (letter :: letters) g with
          | .error fault => .error fault
          | .ok (g, none) => read table rest g
          | .ok (g, some waiting) =>
              match rest with
              | next :: rest => read table rest (g.add waiting (some next))
              | [] => .error (.missingValue waiting)
      | _ => read table rest { g with operands := g.operands ++ [arg] }

end GivenOptions

end SourceReducer
