import Soliscope.Scan.Rule

/-! # The built-in rules

Heuristics for Solidity sources, applied to one line at a time.  They miss what is spread over
several lines and report harmless code that happens to match.  The order is the order in which
findings come out.
-/

namespace Soliscope.Scan

open Piece CharClass

/-- A piece of fixed text. -/
def fixed (written : String) : Piece :=
  .text written.toList

/-- A call that sends value. -/
def valueCallPattern : Pattern := ⟨[[fixed ".call\x7bvalue:"]]⟩

/-- The originator of the transaction. -/
def originPattern : Pattern := ⟨[[fixed "tx.origin"]]⟩

/-- Destruction of the contract, under its present and its former name. -/
def destructionPattern : Pattern := ⟨[[fixed "selfdestruct"], [fixed "suicide"]]⟩

/-- The time of the block. -/
def timestampPattern : Pattern := ⟨[[fixed "block.timestamp"]]⟩

/-- The start of an assembly block. -/
def assemblyPattern : Pattern := ⟨[[fixed "assembly", run blank, fixed "\x7b"]]⟩

/-- A version pragma below 0.7. -/
def oldVersionPattern : Pattern :=
  ⟨[[fixed "pragma solidity ", optional '^', fixed "0.", one (digitUpTo '6'), fixed "."]]⟩

/-- The word public and, later on the line, the brackets of an array type. -/
def publicArrayPattern : Pattern :=
  ⟨[[fixed "public", run₁ blank, run (except '\n'), fixed "[]"]]⟩

/-- The head of a loop that reads a length. -/
def loopLengthPattern : Pattern :=
  ⟨[[fixed "for", run blank, fixed "(", run (except ')'), fixed ".length"]]⟩

/-- The start of an unchecked block. -/
def uncheckedPattern : Pattern := ⟨[[fixed "unchecked", run blank, fixed "\x7b"]]⟩

/-- A call that runs foreign code on this contract's storage. -/
def delegateCallPattern : Pattern := ⟨[[fixed "delegatecall"]]⟩

/-- A rule that goes by a pattern. -/
def Rule.ofPattern (id : String) (pattern : Pattern) (severity : Severity)
    (title description recommendation category : String) : Rule where
  id := id
  severity := severity
  title := title
  description := description
  recommendation := recommendation
  category := category
  pattern := pattern.render
  accepts := pattern.accepts

/-- The built-in rules. -/
def builtinCatalog : List Rule := [
  .ofPattern "reentrancy" valueCallPattern .critical
    "Potential Reentrancy Vulnerability"
    "External calls with value transfer can be exploited for reentrancy attacks."
    "Use the Checks-Effects-Interactions pattern or ReentrancyGuard from OpenZeppelin."
    Category.security.name,
  .ofPattern "tx-origin" originPattern .high
    "tx.origin Authentication"
    "Using tx.origin for authentication is vulnerable to phishing attacks."
    "Use msg.sender instead of tx.origin for authentication."
    Category.security.name,
  .ofPattern "selfdestruct" destructionPattern .high
    "Selfdestruct Usage"
    "selfdestruct can be used to force-send Ether and destroy the contract."
    "Avoid using selfdestruct unless absolutely necessary. Consider alternative patterns."
    Category.security.name,
  .ofPattern "timestamp" timestampPattern .low
    "Block Timestamp Dependency"
    "Block timestamps can be manipulated by miners within a small range."
    ("Avoid using block.timestamp for critical logic. " ++
      "Use block numbers for time-sensitive operations.")
    Category.security.name,
  .ofPattern "assembly" assemblyPattern .medium
    "Inline Assembly Usage"
    "Inline assembly bypasses Solidity's safety checks and can introduce vulnerabilities."
    "Review assembly code carefully. Document all assembly blocks and their purpose."
    Category.codeQuality.name,
  .ofPattern "old-solidity" oldVersionPattern .medium
    "Outdated Solidity Version"
    "Using an older Solidity version may expose the contract to known vulnerabilities."
    "Upgrade to Solidity 0.8.x or later for built-in overflow protection."
    Category.bestPractices.name,
  .ofPattern "public-array" publicArrayPattern .low
    "Public Array Without Getter"
    "Public arrays without custom getters can cause gas issues when accessed."
    "Implement a custom getter function that returns array length or paginated results."
    Category.gasOptimization.name,
  .ofPattern "loop-length" loopLengthPattern .low
    "Array Length in Loop"
    "Reading array length in each iteration wastes gas."
    "Cache the array length in a local variable before the loop."
    Category.gasOptimization.name,
  .ofPattern "unchecked" uncheckedPattern .info
    "Unchecked Arithmetic"
    "Unchecked blocks bypass overflow/underflow checks."
    "Ensure unchecked arithmetic is intentional and safe."
    Category.codeQuality.name,
  .ofPattern "delegatecall" delegateCallPattern .high
    "Delegatecall Usage"
    "delegatecall executes code in the context of the calling contract, which can be dangerous."
    ("Carefully validate the target address. " ++
      "Consider using a proxy pattern with proper access controls.")
    Category.security.name]

/-- The built-in rule of an id. -/
def builtinRule? (id : String) : Option Rule :=
  builtinCatalog.find? (·.id == id)

end Soliscope.Scan
