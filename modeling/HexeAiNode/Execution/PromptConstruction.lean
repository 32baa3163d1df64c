import HexeAiNode.Python.Coercion
import HexeAiNode.Python.Substring

/-!
# Rendering a prompt template

`render_prompt_template`: the variables of a template are names between double braces, with any white space around
them.  Each is replaced, in the order of the names, by the value the request gives it or else the definition's
default; only the spellings without a blank and with one blank on each side are replaced.
-/

namespace HexeAiNode
namespace Execution

open Py

/-- The characters of a variable's name. -/
def isNameChar (c : Char) : Bool := c.isAlphanum || c == '_'

/-- The opening braces of a variable. -/
def openBraces : String := "\x7b\x7b"

/-- The closing braces of a variable. -/
def closeBraces : String := "\x7d\x7d"

/-- The name of the variable at the head of a text, and what follows the variable. -/
def variableAt (cs : List Char) : Option (String × List Char) :=
  if openBraces.toList.isPrefixOf cs then
    let cs := (cs.drop 2).dropWhile isSpace
    let name := cs.takeWhile isNameChar
    let rest := (cs.dropWhile isNameChar).dropWhile isSpace
    if name ≠ [] ∧ closeBraces.toList.isPrefixOf rest then some (String.ofList name, rest.drop 2) else none
  else none

/-- `_TEMPLATE_VARIABLE_PATTERN.findall`; `skip` counts the characters left of the last match. -/
def findVariables : ℕ → List Char → List String
  | _, [] => []
  | skip + 1, _ :: cs => findVariables skip cs
  | 0, c :: cs =>
    match variableAt (c :: cs) with
    | some (name, rest) => name :: findVariables (cs.length - rest.length) cs
    | none => findVariables 0 cs

/-- `sorted(set(names))`. -/
def sortedNames (names : List String) : List String :=
  names.dedup.insertionSort fun a b => a.toList ≤ b.toList

/-- `_stringify_template_value`. -/
def stringifyTemplateValue : Value → String
  | .null => ""
  | .str s => s
  | .dict kvs => dumps { sortKeys := true, ensureAscii := false } (.dict kvs)
  | v => dumps { ensureAscii := false } v

/-- `merge_prompt_inputs`. -/
def mergePromptInputs (requestInputs : Dict) (promptDefinition : Dict) : Dict :=
  requestInputs.foldl (fun merged entry => Dict.set merged entry.1 entry.2)
    (Dict.get promptDefinition "default_inputs").asDict

/-- A variable replaced by its value. -/
def replaceVariable (inputs : Dict) (rendered name : String) : String :=
  let value := stringifyTemplateValue (Dict.get inputs name)
  replace (replace rendered (openBraces ++ name ++ closeBraces) value)
    (openBraces ++ " " ++ name ++ " " ++ closeBraces) value

/-- The text of a definition's template. -/
def promptTemplateOf (promptDefinition : Dict) : String :=
  ((Dict.get promptDefinition "prompt_template").orElse (.str "")).toStr

/-- `render_prompt_template`. -/
def renderPromptTemplate (promptDefinition requestInputs : Dict) : Option String :=
  let template := promptTemplateOf promptDefinition
  if strip template = "" then none
  else
    let inputs := mergePromptInputs requestInputs promptDefinition
    some ((sortedNames (findVariables 0 template.toList)).foldl (replaceVariable inputs) template)

/-- A text is rendered exactly when the template is not blank. -/
theorem exists_renderPromptTemplate_iff {promptDefinition requestInputs : Dict} :
    (∃ text, renderPromptTemplate promptDefinition requestInputs = some text) ↔
      strip (promptTemplateOf promptDefinition) ≠ "" := by
  unfold renderPromptTemplate
  by_cases h : strip (promptTemplateOf promptDefinition) = ""
  · simp [h]
  · simp [h]

example : renderPromptTemplate
    [("prompt_template", .str "Dear \x7b\x7b name \x7d\x7d, \x7b\x7bn\x7d\x7d of \x7b\x7b  n \x7d\x7d"),
      ("default_inputs", .dict [("n", .int 3)])] [("name", .str "Ada")] = some "Dear Ada, 3 of \x7b\x7b  n \x7d\x7d" := by
  decide +kernel

end Execution
end HexeAiNode
