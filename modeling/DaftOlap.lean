import DaftOlap.ClickHouse.Binding
import DaftOlap.ClickHouse.Connection
import DaftOlap.ClickHouse.Construction
import DaftOlap.ClickHouse.Delivery
import DaftOlap.ClickHouse.RowSelection
import DaftOlap.ClickHouse.Stream
import DaftOlap.ClickHouse.TypeTree
import DaftOlap.Common.Grouping
import DaftOlap.Common.QueryParameters
import DaftOlap.Doris.Binding
import DaftOlap.Doris.Connection
import DaftOlap.Doris.Construction
import DaftOlap.Doris.Delivery
import DaftOlap.Doris.Discovery
import DaftOlap.Doris.Fragment
import DaftOlap.Doris.MySql
import DaftOlap.Doris.Readers
import DaftOlap.Doris.Schema
