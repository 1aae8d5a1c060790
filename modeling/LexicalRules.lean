import LexicalRules.Main
import LexicalRules.TokenCursor
import LexicalRules.Proofs.Coverage
import LexicalRules.Proofs.LongestMatch
import LexicalRules.Proofs.Lines
import LexicalRules.Proofs.EndMarker
import LexicalRules.Proofs.OneEnd
import LexicalRules.Proofs.Order
import LexicalRules.Proofs.Lexemes
import LexicalRules.Proofs.PlaceFree
import LexicalRules.Proofs.LeftOut
import LexicalRules.Proofs.IndexCursor
import LexicalRules.Proofs.Backtracking
import LexicalRules.Proofs.JsonText
import LexicalRules.Proofs.Progress
import LexicalRules.Proofs.ReadBack
import LexicalRules.Proofs.RuleFiles
import LexicalRules.Proofs.StringBodies
import LexicalRules.Proofs.Listings
import LexicalRules.Proofs.ListCommand
import LexicalRules.Proofs.Closings
import LexicalRules.Proofs.Numerals
import LexicalRules.Proofs.Selection
import LexicalRules.Proofs.DeadRules
import LexicalRules.Proofs.InPlace
import LexicalRules.Proofs.Words
import LexicalRules.Proofs.CaseSetting
import LexicalRules.Proofs.AllOrNothing
import LexicalRules.Proofs.Places
