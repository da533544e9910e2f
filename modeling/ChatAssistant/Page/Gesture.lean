import ChatAssistant.Page.Node

/-!
What a user does with a page, by the element it is done to. Elements are counted in the order
of the page, and only those count that listen for it.
-/

namespace ChatAssistant.Page

open Session (Event)

inductive Gesture where
  | navigate (index : Nat)
  | openMenu
  | closeMenu
  | toggleTheme
  | selectTab (index : Nat)
  | check (index : Nat) (isOn : Bool)
  /-- Entering a text in a field of the profile. -/
  | fill (index : Nat) (text : String)
  /-- Entering a text for the next message. -/
  | compose (text : String)
  | press (key : String)
  | send
  deriving DecidableEq, Repr

namespace Element

def clicked? (element : Element) : Option Event :=
  element.listeners.findSome? fun listener =>
    match listener with
    | .click event => some event
    | _ => none

def changed? (isOn : Bool) (element : Element) : Option Event :=
  element.listeners.findSome? fun listener =>
    match listener with
    | .change event => some (event isOn)
    | _ => none

def entered? (text : String) (element : Element) : Option Event :=
  element.listeners.findSome? fun listener =>
    match listener with
    | .input event => some (event text)
    | _ => none

def keyed? (key : String) (element : Element) : Option Event :=
  element.listeners.findSome? fun listener =>
    match listener with
    | .keyDown event => some (event key)
    | _ => none

/-- A field without a class of its own. -/
def isPlainInput (element : Element) : Bool :=
  element.tag = "input" && (element.attribute? "class").isNone

def hasTitle (element : Element) : Bool :=
  (element.attribute? "title").isSome

end Element

def events (page : List Node) (isMeant : Element → Bool) (event? : Element → Option Event) :
    List Event :=
  ((elements page).filter isMeant).filterMap event?

open Element

def event? (page : List Node) : Gesture → Option Event
  | .navigate index => (events page (hasClass "nav-item") clicked?)[index]?
  | .openMenu => (events page (hasClass "menu-button") clicked?).head?
  | .closeMenu => (events page (hasClass "sheet-overlay") clicked?).head?
  | .toggleTheme => (events page hasTitle clicked?).head?
  | .selectTab index => (events page (hasClass "tab") clicked?)[index]?
  | .check index isOn => (events page (hasClass "switch") (changed? isOn))[index]?
  | .fill index text => (events page isPlainInput (entered? text))[index]?
  | .compose text => (events page (hasClass "composer-input") (entered? text)).head?
  | .press key => (events page (hasClass "composer-input") (keyed? key)).head?
  | .send => (events page (hasClass "btn-gradient") clicked?).head?

end ChatAssistant.Page
