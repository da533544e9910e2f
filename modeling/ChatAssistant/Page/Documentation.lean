import ChatAssistant.Page.Node

/-!
The section that explains the program.
-/

namespace ChatAssistant.Page

def introduction : String :=
  "RotyChat AI — это платформа для общения с искусственным интеллектом. " ++
    "Просто задавайте вопросы в чате и получайте развёрнутые ответы. " ++
    "Математические выражения решаются калькулятором, остальные вопросы ищутся в интернете."

def connecting : String :=
  "Для расширения функционала вы можете подключить внешние сервисы через раздел " ++
    "Настройки → API. Поддерживаются OpenAI, Anthropic и другие провайдеры."

def connectingExample : String :=
  "POST /api/connect\n\x7b \"provider\": \"openai\", \"key\": \"sk-...\" \x7d"

def topic (title : String) (children : List Node) : Node :=
  classed "div" "card" (classed "h4" "card-title" [.text title] :: children)

def documentation : List Node :=
  panel "panel-title" "Документация"
    [classed "div" "stack"
      [topic "Начало работы" [classed "p" "text-muted" [.text introduction]],
        topic "Подключение API"
          [classed "p" "text-muted" [.text connecting],
            classed "pre" "code-block" [.text connectingExample]]]]

end ChatAssistant.Page
