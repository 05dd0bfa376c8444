import AccountAuthority.Config.Ini
import AccountAuthority.Config.Toml
import AccountAuthority.Config.Yaml

/-!
# Formats of configuration files

A configuration file is written in one of six languages, which the end of its name tells.
-/

namespace AccountAuthority

inductive FileFormat where
  | toml
  | json
  | yaml
  | ini
  | ron
  | json5
  deriving DecidableEq, Repr

namespace FileFormat

/-- All formats, in the order in which files are looked for. -/
def all : List FileFormat := [toml, json, yaml, ini, ron, json5]

/-- How the names of files in a format end. -/
def endings : FileFormat → List String
  | toml => ["toml"]
  | json => ["json"]
  | yaml => ["yaml", "yml"]
  | ini => ["ini"]
  | ron => ["ron"]
  | json5 => ["json5"]

def name : FileFormat → String
  | toml => "TOML"
  | json => "JSON"
  | yaml => "YAML"
  | ini => "INI"
  | ron => "RON"
  | json5 => "JSON5"

/-- The value of a word that stands for a truth value or for nothing, or else a number. -/
def wordMeaning (nothing : String) (word : String) : Option Json :=
  if word = "true" then some (.bool true)
  else if word = "false" then some (.bool false)
  else if word = nothing then some .null
  else Literal.groupedNumber? word

/-- How values are written in JSON with comments, bare names and single quotation marks. -/
def json5Dialect : Dialect where
  marks := ['[', ']', '\x7b', '\x7d', ',', ':']
  stops := ['/', '"', '\x27']
  comment := ['/', '/']
  enclosedComments := true
  quotes := ['"', '\x27']
  plainQuotes := []
  tripleQuotes := false
  assign := ':'
  dotted := false
  meaning := wordMeaning "null"

/-- How values are written with records in parentheses and optional values. -/
def ronDialect : Dialect where
  marks := ['[', ']', '\x7b', '\x7d', '(', ')', ',', ':']
  stops := ['/', '"', '\x27']
  comment := ['/', '/']
  enclosedComments := true
  quotes := ['"', '\x27']
  plainQuotes := []
  tripleQuotes := false
  assign := ':'
  dotted := false
  meaning := wordMeaning "None"

def read? (f : FileFormat) (text : String) : Option Json :=
  let cs := text.toList
  match f with
  | toml => Toml.read? cs
  | json => Json.parse? text
  | yaml => Yaml.read? cs
  | ini => Ini.read? cs
  | ron => Literal.read? ronDialect cs
  | json5 => Literal.read? json5Dialect cs

end FileFormat

end AccountAuthority
