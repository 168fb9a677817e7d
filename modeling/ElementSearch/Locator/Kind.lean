/-! The kinds of locator and their labels.
A locator object names its kind by a key; every kind but `custom`, `fuzzy` and `unknown` has one,
and the key is its label. -/

namespace ElementSearch

inductive Kind where
  | css
  | xpath
  | id
  | name
  | custom
  | frame
  | react
  | vue
  | shadow
  | fuzzy
  | unknown
deriving DecidableEq, Repr

namespace Kind

def all : List Kind :=
  [css, xpath, id, name, custom, frame, react, vue, shadow, fuzzy, unknown]

def label : Kind → String
  | css => "css"
  | xpath => "xpath"
  | id => "id"
  | name => "name"
  | custom => "custom"
  | frame => "frame"
  | react => "react"
  | vue => "vue"
  | shadow => "shadow"
  | fuzzy => "fuzzy"
  | unknown => "strict_unknown"

def capital : Kind → String
  | css => "CSS"
  | xpath => "XPATH"
  | id => "ID"
  | name => "NAME"
  | custom => "CUSTOM"
  | frame => "FRAME"
  | react => "REACT"
  | vue => "VUE"
  | shadow => "SHADOW"
  | fuzzy => "FUZZY"
  | unknown => "STRICT_UNKNOWN"

def ofLabel? (text : String) : Option Kind := all.find? fun kind => kind.label == text

def ofKey? (key : String) : Option Kind :=
  [css, xpath, id, name, frame, react, vue, shadow].find? fun kind => kind.label == key

end Kind

end ElementSearch
