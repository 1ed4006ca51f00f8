import RuleTree.Host.Wide
import RuleTree.Main
import RuleTree.Proofs.CommandLine.Override
import RuleTree.Proofs.CommandLine.Piping
import RuleTree.Proofs.Evaluation.Congruence
import RuleTree.Proofs.Evaluation.Derivation
import RuleTree.Proofs.Evaluation.Distribution
import RuleTree.Proofs.Evaluation.Expansion
import RuleTree.Proofs.Evaluation.Extension
import RuleTree.Proofs.Evaluation.Folding
import RuleTree.Proofs.Evaluation.Origin
import RuleTree.Proofs.Evaluation.Room
import RuleTree.Proofs.Evaluation.Session
import RuleTree.Proofs.Evaluation.Walk
import RuleTree.Proofs.Pattern.Numerals
import RuleTree.Proofs.Registry.Construction
import RuleTree.Proofs.Unicode.Recasing
