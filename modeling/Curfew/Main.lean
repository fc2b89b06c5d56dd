import Curfew.CommandLine.Program
import Curfew.Disk.Listing

/-!
The program: a command line over a disk that is described on the standard input.

The commands that look at no disk do not read the input. After a command that may change the disk, its
entries are listed behind what the command prints.
-/

open Curfew

/-- The host of a program that is given nothing but a disk. -/
def bareHost : Host :=
  .bare ["work"] [("root", 0)] { mayChangeGroups := true, groups := [0] } .utc Policy.epoch.wall

/-- The lines of a stream that are not blank. -/
partial def readLines (input : IO.FS.Stream) (before : List String) : IO (List String) := do
  let line ← input.getLine
  if line.isEmpty then return before.reverse
  else readLines input (if line.trimAscii.isEmpty then before else line :: before)

/-- The host whose disk is described on the standard input. -/
def describedHost : IO (Option Host) := do
  let lines ← readLines (← IO.getStdin) []
  match lines.mapM Listing.placed? with
  | none => return none
  | some entries =>
    match (Listing.work entries).run bareHost with
    | .ok _ h => return some h
    | .error _ _ => return none

/-- Runs a command line on a host, and prints what comes of it and, if wanted, the disk. -/
def runOn (args : List String) (h : Host) (listsDisk : Bool) : IO UInt32 := do
  let (o, s) := CommandLine.run "run" args h
  for line in o.err do IO.eprintln line
  for line in o.out do IO.println line
  if listsDisk then
    for (path, i) in s.host.inventory do IO.println (Listing.lineOf path i)
  return o.ending.exitCode.toUInt32

def main (args : List String) : IO UInt32 := do
  if args.contains "apply" || args.contains "validate" then
    match ← describedHost with
    | some h => runOn args h true
    | none =>
      IO.eprintln "Error: the disk is not described."
      return 1
  else runOn args bareHost false
