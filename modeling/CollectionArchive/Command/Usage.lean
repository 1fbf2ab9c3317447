import CollectionArchive.Command.Line

/-!
# Telling how a command line is written

* `UsageFault.message`: the wording of a fault.
* `UsageFault.isFailure`: whether it is a fault to begin with.
-/

namespace CollectionArchive

namespace UsageFault

/-- How a command line is written. -/
def help : String :=
  "\n".intercalate
    ["Usage: confector [OPTIONS] <COMMAND>",
      "",
      "Commands:",
      "  check <SCHEMATA>...  Validate schema files and resolve the links between them",
      "  build <MANIFEST>     Build an archive from a manifest",
      "  inspect <ARCHIVE>    Show the entries, node counts and metadata of an archive",
      "",
      "Options:",
      "  -o, --output <OUTPUT>  Write the archive here (build only)",
      "      --format <FORMAT>  text or json",
      "  -v, --verbose",
      "  -h, --help",
      "  -V, --version"]

/-- The version of the program. -/
def version : String :=
  "confector 0.1.0"

/-- The wording of a fault, or what is asked for in place of a command. -/
def message : UsageFault → String
  | helpWanted | nothingGiven => help
  | versionWanted => version
  | missingCommand => "error: a command is required"
  | unknownCommand => "error: unrecognized command"
  | unknownArgument => "error: unexpected argument"
  | missingArgument => "error: a required argument is missing"
  | invalidValue => "error: invalid value for an argument"
  | repeatedOption => "error: an option cannot be used twice"
  | unwantedValue => "error: an option takes no value"

/-- Whether nothing was asked for that can be given. -/
def isFailure (e : UsageFault) : Bool :=
  e != helpWanted && e != versionWanted

end UsageFault

end CollectionArchive
