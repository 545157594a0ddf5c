/-
  LayerTemplates.Pattern.Named
  ────────────────────────────
  Classes of characters by name: properties, general categories and scripts, and the
  ASCII classes that are written between colons.
-/
import LayerTemplates.Pattern.Category
import LayerTemplates.Pattern.Regex
import LayerTemplates.Pattern.Script

namespace LayerTemplates.Pattern

/-- A name without the differences that do not count: case, blanks, hyphens, underscores
and a leading `is`. -/
def looseName (name : List Char) : String :=
  let kept := match name with
    | a :: b :: rest => if a.toLower == 'i' && b.toLower == 's' then rest else name
    | _ => name
  let loose := kept.filterMap fun c =>
    if c == ' ' || c == '_' || c == '-' || c.toNat > 0x7f then none else some c.toLower
  if kept.length < name.length && loose == ['c'] then "isc" else String.ofList loose

/-- The class that a table lists under a name. -/
def listed? (table : List (List String × String)) (name : String) : Option CharClass :=
  (table.find? fun entry => entry.1.contains name).map fun entry => .table (.ofTable entry.2)

/-- The general category, or the group of categories, of a name. -/
def category? (name : String) : Option CharClass :=
  match name with
  | "any" => some .all
  | "ascii" => some (.range '\x00' '\x7f')
  | "assigned" => (listed? categories "cn").map .complement
  | "cs" | "surrogate" => some (.union [])
  | _ =>
      listed? categories name
        <|> (categoryGroups.find? fun group => group.1.contains name).map fun group =>
          .union (group.2.filterMap (listed? categories))

/-- The class that a single name stands for. -/
def named? (name : String) : Option CharClass :=
  let property := if ["cf", "sc", "lc"].contains name then none else listed? properties name
  property <|> category? name <|> listed? scripts name

/-- The class of the characters for which a property has a value. -/
def valued? (property value : String) : Option CharClass :=
  if ["gc", "generalcategory"].contains property then category? value
  else if ["sc", "script", "scx", "scriptextensions"].contains property then listed? scripts value
  else none

/-- A class of several ranges. -/
def ranges (pairs : List (Char × Char)) : CharClass :=
  .union (pairs.map fun pair => .range pair.1 pair.2)

/-- The ASCII class of a name. -/
def asciiClass? (name : String) : Option CharClass :=
  match name with
  | "alnum" => some (ranges [('0', '9'), ('A', 'Z'), ('a', 'z')])
  | "alpha" => some (ranges [('A', 'Z'), ('a', 'z')])
  | "ascii" => some (.range '\x00' '\x7f')
  | "blank" => some (ranges [('\t', '\t'), (' ', ' ')])
  | "cntrl" => some (ranges [('\x00', '\x1f'), ('\x7f', '\x7f')])
  | "digit" => some (.range '0' '9')
  | "graph" => some (.range '!' '~')
  | "lower" => some (.range 'a' 'z')
  | "print" => some (.range ' ' '~')
  | "punct" => some (ranges [('!', '/'), (':', '@'), ('[', '\x60'), ('\x7b', '~')])
  | "space" => some (ranges [('\t', '\x0d'), (' ', ' ')])
  | "upper" => some (.range 'A' 'Z')
  | "word" => some (ranges [('0', '9'), ('A', 'Z'), ('_', '_'), ('a', 'z')])
  | "xdigit" => some (ranges [('0', '9'), ('A', 'F'), ('a', 'f')])
  | _ => none

/-- The class behind `\d`, `\s` or `\w`. -/
def escapeClass? (letter : Char) (unicode : Bool) : Option CharClass :=
  match letter with
  | 'd' => if unicode then some (.table decimalDigits) else asciiClass? "digit"
  | 's' => if unicode then some (.table whiteSpace) else asciiClass? "space"
  | 'w' => if unicode then some (.table wordChars) else asciiClass? "word"
  | _ => none

end LayerTemplates.Pattern
