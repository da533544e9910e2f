import ChatAssistant.Page.Node

/-!
The section of prices, with one card for each plan.
-/

namespace ChatAssistant.Page

structure Plan where
  name : String
  /-- In roubles a month. -/
  price : Nat
  features : List String
  isHighlighted : Bool := false
  deriving DecidableEq, Repr

def plans : List Plan :=
  [ { name := "Free", price := 0, features := ["10 сообщений/день", "Базовая модель"] },
    { name := "Pro", price := 990, features := ["Безлимит", "Все модели", "API доступ"],
      isHighlighted := true },
    { name := "Team", price := 2990,
      features := ["Всё из Pro", "Командная работа", "Приоритет"] }]

def feature (text : String) : Node :=
  bare "li" [.text ("✓ " ++ text)]

def planCard (plan : Plan) : Node :=
  classed "div" (if plan.isHighlighted then "card plan highlighted" else "card plan")
    [classed "h4" "plan-name" [.text plan.name],
      classed "p" "plan-price"
        [.text (toString plan.price ++ " ₽"), classed "span" "text-muted" [.text "/мес"]],
      classed "ul" "plan-features" (plan.features.map feature),
      idleButton
        (if plan.isHighlighted then "btn btn-gradient btn-block" else "btn btn-outline btn-block")
        "Выбрать"]

def pricing : List Node :=
  panel "panel-title centered" "Тарифы"
    [classed "p" "text-muted centered" [.text "Выберите подходящий план для ваших задач"],
      classed "div" "plan-grid" (plans.map planCard)]

end ChatAssistant.Page
