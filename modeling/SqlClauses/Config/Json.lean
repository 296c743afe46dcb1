import SqlClauses.Config.Basic
import SqlClauses.Json.Derived

set_option autoImplicit false

namespace SqlClauses

namespace Placeholder

def ident : Placeholder → String
  | .question => "Question"
  | .numbered => "Numbered"

def shape : Shape Placeholder := .choice ident [.question, .numbered]

def name : Placeholder → String
  | .question => "question"
  | .numbered => "numbered"

def ofName (name : String) : Option Placeholder :=
  if name = "question" then some .question
  else if name = "numbered" then some .numbered
  else none

end Placeholder

namespace Config

def fields : Fields Config :=
  .cons "auto_quote_char" (.option .char) quote (fun quote config => { config with quote }) <|
    .cons "placeholder" Placeholder.shape placeholder
      (fun placeholder config => { config with placeholder }) .nil

def shape : Shape Config := .record standard fields

def parse [JsonLibrary] (text : String) : Option Config := JsonLibrary.parse shape text

def serialize [JsonLibrary] (config : Config) : String := JsonLibrary.print shape config

end Config

end SqlClauses
