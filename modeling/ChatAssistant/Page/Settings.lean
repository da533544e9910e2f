import ChatAssistant.Page.Node

/-!
The section of the settings, with its tabs.
-/

namespace ChatAssistant.Page

open Session (Event)

def tabButton (openTab tab : SettingsTab) : Node :=
  button (if openTab = tab then "tab active" else "tab") [] [.click (.selectTab tab)]
    [.text tab.label]

def settingRow (label hint : String) (control : Node) : Node :=
  classed "div" "setting-row"
    [bare "div" [classed "p" "setting-label" [.text label], classed "p" "text-muted" [.text hint]],
      control]

def switch (isOn : Bool) (event : Bool → Event) : Node :=
  input [.text "class" "switch", .text "type" "checkbox", .flag "checked" isOn] [.change event]

def generalPanel (isFast notifies : Bool) : Node :=
  classed "div" "card"
    [settingRow "Быстрый режим" "Ускоренная обработка запросов" (switch isFast .setFast),
      settingRow "Уведомления" "Получать уведомления о новых сообщениях"
        (switch notifies .setNotifying)]

def interfacesPanel : Node :=
  classed "div" "card"
    [classed "h4" "card-title" [.text "Подключение внешних API"],
      labelled "OpenAI API Key"
        (input [.text "type" "password", .text "placeholder" "sk-..."] []),
      labelled "Webhook URL"
        (input [.text "type" "url", .text "placeholder" "https://..."] []),
      idleButton "btn btn-gradient" "Сохранить"]

def appearancePanel (isDark : Bool) : Node :=
  classed "div" "card"
    [settingRow "Тёмная тема" "Использовать тёмное оформление" (switch isDark .setDark)]

def openPanel (isDark : Bool) : SettingsPanel → Node
  | .general isFast notifies => generalPanel isFast notifies
  | .interfaces => interfacesPanel
  | .appearance => appearancePanel isDark

def settings (isDark : Bool) (shown : SettingsPanel) : List Node :=
  panel "panel-title" "Настройки"
    [classed "div" "tabs" (SettingsTab.all.map (tabButton shown.tab)), openPanel isDark shown]

end ChatAssistant.Page
