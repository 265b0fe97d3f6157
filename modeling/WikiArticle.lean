import WikiArticle.Files.Tree
import WikiArticle.Main
import WikiArticle.Proofs.Markup.Nesting
import WikiArticle.Proofs.Text.Seek
import WikiArticle.Proofs.Inline.Pair
import WikiArticle.Proofs.Inline.Entity
import WikiArticle.Proofs.Inline.Mark
import WikiArticle.Proofs.Inline.Span
import WikiArticle.Proofs.Inline.Linked
import WikiArticle.Proofs.Inline.Grammar
import WikiArticle.Proofs.Body.Content
import WikiArticle.Proofs.Body.Outline
import WikiArticle.Proofs.Body.Continues
import WikiArticle.Proofs.Body.Tree
import WikiArticle.Proofs.Body.Written
import WikiArticle.Proofs.Body.Stack
import WikiArticle.Proofs.Body.OpenElements
import WikiArticle.Proofs.Body.Grammar
import WikiArticle.Proofs.Body.Tidy
import WikiArticle.Proofs.Markup.Forest
import WikiArticle.Proofs.Text.Lines
import WikiArticle.Proofs.Body.Reading
import WikiArticle.Proofs.Markup.StartTag
import WikiArticle.Proofs.Body.Attributes
import WikiArticle.Proofs.Article.Attributes
import WikiArticle.Proofs.Article.Sources
import WikiArticle.Proofs.Body.History
import WikiArticle.Proofs.Inline.Unmark
import WikiArticle.Proofs.Body.Order
import WikiArticle.Proofs.Body.Containment
import WikiArticle.Proofs.Body.Leaving
import WikiArticle.Proofs.Body.Literal
import WikiArticle.Proofs.Body.Unseen
import WikiArticle.Proofs.Inline.Search
import WikiArticle.Proofs.Inline.Taken
import WikiArticle.Proofs.Markup.Level
import WikiArticle.Proofs.Inline.Saturated
import WikiArticle.Proofs.Inline.Doubled
import WikiArticle.Proofs.Command.Run
import WikiArticle.Proofs.Inline.Stretch
import WikiArticle.Proofs.Line.Picture
import WikiArticle.Proofs.Inline.Budget
import WikiArticle.Proofs.Inline.Look
import WikiArticle.Proofs.Inline.Neutral
import WikiArticle.Proofs.Line.Heading
import WikiArticle.Proofs.Line.Grammar
import WikiArticle.Proofs.Line.Row
import WikiArticle.Proofs.Body.Names
import WikiArticle.Proofs.Body.Runs
import WikiArticle.Proofs.Body.Regroup
import WikiArticle.Proofs.Body.Containers
import WikiArticle.Proofs.Body.Tables
import WikiArticle.Proofs.Article.Options
import WikiArticle.Proofs.Body.AnyOrder
import WikiArticle.Proofs.Inline.Places
import WikiArticle.Proofs.Command.Log
