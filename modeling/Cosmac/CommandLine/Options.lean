/-!
# Cosmac — options

The options of the command line by name. A *setting* takes a value; a *switch* takes none.

`Opt.table` is the only place that has the names: an option is found by looking it up there, and the
usage that is printed on request goes through it row by row.
-/

namespace Cosmac.CommandLine

/-- An option that takes a value. -/
inductive Setting
  | dialect
  | logicClearsFlag
  | shiftOperand
  | jumpRegister
  | spriteEdges
  | transferMovesIndex
  | indexOverflow
  | programAddr
  | fontAddr
  | cycles
  | batchHz
  | timerHz
  | refreshHz
  | seed
  | maxBatches
  | keymap
  | logFile
  | logFilter
  deriving Repr, DecidableEq

/-- An option that takes none. -/
inductive Switch
  | mute
  | disassemble
  | help
  | version
  deriving Repr, DecidableEq

inductive Opt
  | setting (s : Setting)
  | switch (s : Switch)
  deriving Repr, DecidableEq

namespace Opt

/-- Every option under its name. -/
def table : List (String × Opt) := [
  ("quirks", .setting .dialect),
  ("bitwise-resets-vf", .setting .logicClearsFlag),
  ("shift-source", .setting .shiftOperand),
  ("jump-offset", .setting .jumpRegister),
  ("sprite-edges", .setting .spriteEdges),
  ("load-store-advances-i", .setting .transferMovesIndex),
  ("index-overflow", .setting .indexOverflow),
  ("program-addr", .setting .programAddr),
  ("font-addr", .setting .fontAddr),
  ("cycles", .setting .cycles),
  ("batch-hz", .setting .batchHz),
  ("timer-hz", .setting .timerHz),
  ("refresh-hz", .setting .refreshHz),
  ("seed", .setting .seed),
  ("max-batches", .setting .maxBatches),
  ("keymap", .setting .keymap),
  ("log-file", .setting .logFile),
  ("log-filter", .setting .logFilter),
  ("mute", .switch .mute),
  ("disassemble", .switch .disassemble),
  ("help", .switch .help),
  ("version", .switch .version)]

/-- The option of a name. Names are not abbreviated. -/
def ofName? (name : String) : Option Opt :=
  table.lookup name

/-- How a command line is made up. -/
def usage : List String :=
  "Usage: chip8 [OPTIONS] <ROM>" :: "" :: "Options:" :: table.map fun (name, o) =>
    match o with
    | .setting _ => "      --" ++ name ++ " <VALUE>"
    | .switch _ => "      --" ++ name

end Opt

end Cosmac.CommandLine
