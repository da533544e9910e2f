import ChatAssistant.Page.Node

/-!
The section of earlier conversations, which shows examples of them.
-/

namespace ChatAssistant.Page

def exampleCount : Nat := 3

def exampleConversation (number : Nat) : Node :=
  classed "div" "card card-hover"
    [classed "div" "card-row"
      [bare "div"
        [classed "h4" "card-title" [.text ("Диалог " ++ toString number)],
          classed "p" "text-muted" [.text "Последнее сообщение: Это демо-ответ AI..."]],
        classed "span" "badge badge-outline" [.text "Сегодня"]]]

def history : List Node :=
  panel "panel-title" "История диалогов"
    [classed "div" "stack"
      ((List.range exampleCount).map fun index => exampleConversation (index + 1))]

end ChatAssistant.Page
