import ArrowTyping.Session
import ArrowTyping.Proofs.Ty.Comparison
import ArrowTyping.Proofs.Ty.Reading
import ArrowTyping.Proofs.Violation.Message
import ArrowTyping.Proofs.Session.Trails
import ArrowTyping.Proofs.Typing.Adequacy
import ArrowTyping.Proofs.Typing.Resolution
import ArrowTyping.Proofs.Typing.Weakening
import ArrowTyping.Proofs.Typing.Replacement
import ArrowTyping.Proofs.Typing.Substitution
import ArrowTyping.Proofs.Typing.Renaming
import ArrowTyping.Proofs.Typing.Places
import ArrowTyping.Proofs.Typing.Declarations
import ArrowTyping.Proofs.Typing.ParameterGroups
import ArrowTyping.Proofs.Typing.Rebracketing
