import ChatAssistant.Session

/-!
Pages as trees of elements, and their text. Elements listen for what happens to them; what they
make of it are events of the session.
-/

namespace ChatAssistant.Page

open Session (Event)

/-- A flag is written only if it is set. -/
inductive AttributeValue where
  | text (value : String)
  | flag (isSet : Bool)
  deriving DecidableEq, Repr

structure Attribute where
  name : String
  value : AttributeValue
  deriving DecidableEq, Repr

inductive Listener where
  | click (event : Event)
  /-- For a box that is checked or not. -/
  | change (event : Bool → Event)
  | input (event : String → Event)
  /-- For a key, by its name. -/
  | keyDown (event : String → Event)

structure Element where
  tag : String
  attributes : List Attribute := []
  listeners : List Listener := []

inductive Node where
  | text (content : String)
  /-- Text that is written as it is. -/
  | raw (content : String)
  | element (element : Element) (children : List Node)

namespace Attribute

def text (name value : String) : Attribute :=
  ⟨name, .text value⟩

def flag (name : String) (isSet : Bool) : Attribute :=
  ⟨name, .flag isSet⟩

/-- A text stands between quotes with nothing escaped in it. -/
def html (attr : Attribute) : String :=
  match attr.value with
  | .text value => " " ++ attr.name ++ "=\"" ++ value ++ "\""
  | .flag true => " " ++ attr.name ++ "=true"
  | .flag false => ""

end Attribute

namespace Element

def attribute? (element : Element) (name : String) : Option String :=
  element.attributes.findSome? fun attr =>
    if attr.name = name then
      match attr.value with
      | .text value => some value
      | .flag _ => none
    else none

def classNames (element : Element) : List String :=
  ((element.attribute? "class").getD "").splitOn " "

def hasClass (name : String) (element : Element) : Bool :=
  element.classNames.contains name

/-- Elements of these kinds have nothing in them and no closing tag. -/
def isVoid (element : Element) : Bool :=
  element.tag = "input"

def openingTag (element : Element) : String :=
  "<" ++ element.tag ++ String.join (element.attributes.map Attribute.html)

def closingTag (element : Element) : String :=
  "</" ++ element.tag ++ ">"

end Element

def escapedCharacter (char : Char) : String :=
  if char = '<' then "&lt;"
  else if char = '>' then "&gt;"
  else if char = '&' then "&amp;"
  else if char = '\"' then "&quot;"
  else if char = '\'' then "&#x27;"
  else char.toString

def escaped (text : String) : String :=
  String.join (text.toList.map escapedCharacter)

mutual

/-- The text of a node, without white space around its parts. -/
def Node.html : Node → String
  | .text content => escaped content
  | .raw content => content
  | .element element children =>
      if element.isVoid then element.openingTag ++ "/>"
      else element.openingTag ++ ">" ++ html children ++ element.closingTag

def html : List Node → String
  | [] => ""
  | node :: nodes => node.html ++ html nodes

end

mutual

def Node.elements : Node → List Element
  | .text _ => []
  | .raw _ => []
  | .element element children => element :: elements children

def elements : List Node → List Element
  | [] => []
  | node :: nodes => node.elements ++ elements nodes

end

def bare (tag : String) (children : List Node) : Node :=
  .element { tag } children

def classed (tag className : String) (children : List Node) : Node :=
  .element { tag, attributes := [.text "class" className] } children

def button (className : String) (attributes : List Attribute) (listeners : List Listener)
    (children : List Node) : Node :=
  .element
    { tag := "button"
      attributes := [.text "class" className, .text "type" "button"] ++ attributes
      listeners }
    children

def idleButton (className caption : String) : Node :=
  button className [] [] [.text caption]

def input (attributes : List Attribute) (listeners : List Listener) : Node :=
  .element { tag := "input", attributes, listeners } []

def labelled (label : String) (field : Node) : Node :=
  classed "label" "field" [bare "span" [.text label], field]

def panel (titleClass title : String) (children : List Node) : List Node :=
  [classed "div" "panel"
    [classed "div" "panel-inner" (classed "h3" titleClass [.text title] :: children)]]

end ChatAssistant.Page
