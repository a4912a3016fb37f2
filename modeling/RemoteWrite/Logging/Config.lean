import RemoteWrite.Config.Reader
import RemoteWrite.Logging.Level

/-!
Contract: the configuration of logging.

Owns: the verbosity and the format, their defaults, and their documents.

Does not own: what becomes of an event.
-/

namespace RemoteWrite.Logging

open Config

inductive Format where
  /-- Pretty on a terminal, otherwise simplified. -/
  | auto
  | pretty
  | simplified
  | json
deriving DecidableEq, Repr

def Format.name : Format → String
  | auto => "auto"
  | pretty => "pretty"
  | simplified => "simplified"
  | json => "json"

def Format.all : List Format := [.auto, .pretty, .simplified, .json]

structure LogConfig where
  level : Verbosity := .upTo .info
  format : Format := .auto
deriving DecidableEq, Repr

namespace LogConfig

def settings : List (Setting LogConfig) := [
  .ofReader "level" (.oneOf (Verbosity.all.map fun level => (level.name, level)))
    fun level config => { config with level },
  .ofReader "format" (.oneOf (Format.all.map fun format => (format.name, format)))
    fun format config => { config with format }]

def reader : Reader LogConfig := .record "LogConfig" settings {}

def toDocument (config : LogConfig) : Document :=
  .ofEntries [("level", .text config.level.name), ("format", .text config.format.name)]

end LogConfig
end RemoteWrite.Logging
