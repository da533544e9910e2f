import ChatAssistant.Page.Node

/-!
The section in which the conversation is held.
-/

namespace ChatAssistant.Page

def busyLabel : String := "Ищу информацию в интернете..."

def composerPlaceholder : String := "Напишите сообщение..."

def source (link : SourceLink) : Node :=
  .element
    { tag := "a"
      attributes := [.text "class" "source-link", .text "href" link.url,
        .text "target" "_blank", .text "rel" "noopener noreferrer"] }
    [classed "span" "source-icon" [.text "↗"],
      classed "div" "source-body"
        [classed "p" "source-title" [.text link.title],
          classed "p" "source-url" [.text link.url]]]

def sources (links : List SourceLink) : List Node :=
  if links.isEmpty then []
  else [classed "div" "sources"
    (classed "p" "sources-title" [.text "Источники:"] :: links.map source)]

def clockLine : Option String → List Node
  | none => []
  | some time => [classed "p" "message-timestamp" [.text time]]

def messageRow (clock? : Timestamp → Option String) (message : Message) : Node :=
  classed "div" ("message-row " ++ message.role.name)
    ((if message.isFromUser then [] else [classed "div" "avatar gradient-bg" [.text "🤖"]]) ++
      [classed "div" ("bubble " ++ message.role.name)
        (classed "p" "bubble-text" [.text message.content] ::
          sources message.visibleLinks ++ clockLine (clock? message.timestamp))] ++
      if message.isFromUser then [classed "div" "avatar muted" [.text "П"]] else [])

def busyIndicator (isBusy : Bool) : List Node :=
  if isBusy then
    [classed "div" "busy-indicator"
      [classed "span" "spin" [.text "🌐"], bare "span" [.text busyLabel]]]
  else []

def composerInput (draft : String) (isBusy : Bool) : Node :=
  input
    [.text "class" "composer-input", .text "type" "text",
      .text "placeholder" composerPlaceholder, .text "value" draft, .flag "disabled" isBusy,
      .flag "autofocus" true]
    [.input .setDraft, .keyDown .press]

def sendButton (isBusy : Bool) : Node :=
  button "btn btn-gradient btn-icon" [.flag "disabled" isBusy] [.click .submit]
    [if isBusy then classed "span" "spin" [.text "⟳"] else .text "➤"]

def composer (draft : String) (isBusy : Bool) : Node :=
  classed "div" "composer"
    [classed "div" "composer-inner"
      (busyIndicator isBusy ++
        [classed "div" "hstack" [composerInput draft isBusy, sendButton isBusy]])]

def messageList (clock? : Timestamp → Option String) (messages : List Message) : Node :=
  .element
    { tag := "div"
      attributes := [.text "id" "chat-list", .text "class" "chat-list"] }
    [classed "div" "chat-column" (messages.map (messageRow clock?))]

def chat (clock? : Timestamp → Option String) (conversation : Conversation)
    (draft : String) : List Node :=
  [classed "div" "chat-section"
    [messageList clock? conversation.messages, composer draft conversation.isBusy]]

end ChatAssistant.Page
