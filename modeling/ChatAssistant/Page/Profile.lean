import ChatAssistant.Page.Node

/-!
The section of the user's profile.
-/

namespace ChatAssistant.Page

def profileField (kind label value : String) (event : String → Session.Event) : Node :=
  labelled label (input [.text "type" kind, .text "value" value] [.input event])

def profile (name email : String) : List Node :=
  panel "panel-title" "Профиль"
    [classed "div" "card profile-card"
      [classed "div" "avatar avatar-large gradient-bg" [.text "П"],
        classed "div" "stack grow"
          [profileField "text" "Имя пользователя" name .setName,
            profileField "email" "Email" email .setEmail,
            classed "div" "hstack"
              [classed "span" "badge" [.text "Free Plan"],
                idleButton "btn btn-link" "Улучшить план"],
            idleButton "btn btn-gradient" "Сохранить изменения"]]]

end ChatAssistant.Page
